import MemoryCard.Save.File
import Mathlib.Data.List.TakeWhile

/-! # Titles of the Western European code page

Such a title has one character for each byte in front of the first zero, and the white space at the end
is left out. The exception is a title with a byte-order mark in front: it is read as Unicode text, and
that never gives the characters of the code page. In UTF-8 a character beyond ASCII has a byte of its own
to begin with, and the mark has such a byte but gives no character. In UTF-16 two bytes that are not zero
make a number of more than one byte, and the code page has `þ` and `ÿ` for the mark.
-/

namespace MemoryCard

namespace Text

variable {bs : List UInt8}

/-- A byte-order mark stands in front. -/
def Marked (bs : List UInt8) : Prop :=
  [0xEF, 0xBB, 0xBF] <+: bs ∨ [0xFF, 0xFE] <+: bs ∨ [0xFE, 0xFF] <+: bs

/-- The characters of the bytes in front of the first zero, one for each, white space at the end left
out. -/
def plain (bs : List UInt8) : String := String.ofList (trimEnd ((untilNul bs).map Windows1252.char))

/-! ## The bytes in front of the first zero -/

theorem ne_zero_of_mem_untilNul {b : UInt8} (h : b ∈ untilNul bs) : b ≠ 0 := by
  have hne := List.mem_takeWhile_imp h
  exact bne_iff_ne.1 hne

theorem untilNul_append {front : List UInt8} (h : 0 ∉ front) (rest : List UInt8) :
    untilNul (front ++ rest) = front ++ untilNul rest :=
  List.takeWhile_append_of_pos fun _ hb ↦ bne_iff_ne.2 (ne_of_mem_of_not_mem hb h)

/-- What stands behind a zero is not part of a title. -/
theorem untilNul_append_nul (bs tail : List UInt8) : untilNul (bs ++ 0 :: tail) = untilNul bs := by
  unfold untilNul
  induction bs with
  | nil => rfl
  | cons b rest ih => rw [List.cons_append, List.takeWhile_cons, List.takeWhile_cons, ih]

theorem prefix_untilNul_iff {mark : List UInt8} (h : 0 ∉ mark) :
    mark <+: untilNul bs ↔ mark <+: bs := by
  constructor
  · intro hmark
    exact hmark.trans (List.takeWhile_prefix _)
  · rintro ⟨rest, rfl⟩
    exact ⟨untilNul rest, (untilNul_append h rest).symm⟩

/-- There are no zeros in a byte-order mark. -/
theorem marked_untilNul : Marked (untilNul bs) ↔ Marked bs := by
  rw [Marked, Marked, prefix_untilNul_iff (by decide), prefix_untilNul_iff (by decide),
    prefix_untilNul_iff (by decide)]

theorem sniff_of_not_marked (h : ¬ Marked bs) (c : Charset) : sniff c bs = (.charset c, bs) := by
  unfold sniff
  split
  · exact absurd (.inl ⟨_, rfl⟩) h
  · exact absurd (.inr (.inl ⟨_, rfl⟩)) h
  · exact absurd (.inr (.inr ⟨_, rfl⟩)) h
  · rfl

/-! ## Characters of a kind -/

/-- Only white space is left out at the end. -/
theorem countP_trimEnd {p : Char → Bool} (h : ∀ c, p c = true → isBlank c = false) (cs : List Char) :
    (trimEnd cs).countP p = cs.countP p := by
  have hblank : (cs.reverse.takeWhile isBlank).countP p = 0 := by
    refine List.countP_eq_zero.2 fun c hc hp ↦ ?_
    have hc := List.mem_takeWhile_imp hc
    rw [h c hp] at hc
    cases hc
  have hparts := congrArg (List.countP p)
    (List.takeWhile_append_dropWhile (p := isBlank) (l := cs.reverse))
  rw [List.countP_append, hblank, Nat.zero_add] at hparts
  rw [trimEnd, List.countP_reverse, hparts, List.countP_reverse]

/-- A character beyond ASCII, neither white space nor the replacement character. -/
def isForeign (c : Char) : Bool := 0x80 ≤ c.toNat && !isBlank c && c != replacement

/-- A character with a number of one byte, not white space. -/
def isNarrow (c : Char) : Bool := c.toNat < 0x100 && !isBlank c

theorem isBlank_of_isForeign {c : Char} (h : isForeign c = true) : isBlank c = false := by
  rw [isForeign, Bool.and_eq_true, Bool.and_eq_true, Bool.not_eq_true'] at h
  exact h.1.2

theorem isBlank_of_isNarrow {c : Char} (h : isNarrow c = true) : isBlank c = false := by
  rw [isNarrow, Bool.and_eq_true, Bool.not_eq_true'] at h
  exact h.2

theorem toNat_scalar {n : Nat} (h : n.isValidChar) : (scalar n).toNat = n := by
  rw [scalar, if_pos h, Char.ofNat, dif_pos h]
  rfl

theorem le_toNat_scalar {n : Nat} (h : 0x100 ≤ n) : 0x100 ≤ (scalar n).toNat := by
  by_cases hvalid : n.isValidChar
  · rwa [toNat_scalar hvalid]
  · rw [scalar, if_neg hvalid]
    decide

/-! ## UTF-8 -/

/-- The byte can begin a character beyond ASCII in UTF-8. -/
def isLeading (b : UInt8) : Bool := 0xC2 ≤ b.toNat

namespace Utf8

/-- A first byte is a character, begins one, or cannot begin any. -/
theorem start_cases (b : UInt8) :
    (b.toNat < 0x80 ∧ start b = ([scalar b.toNat], none)) ∨
      (isLeading b = true ∧ ∃ p, start b = ([], some p)) ∨ start b = ([replacement], none) := by
  unfold start
  simp only
  split_ifs with hascii
  · exact .inl ⟨hascii, rfl⟩
  rotate_right
  · exact .inr (.inr rfl)
  all_goals
    refine .inr (.inl ⟨decide_eq_true ?_, _, rfl⟩)
    omega

/-- A further byte ends a character, goes on with it, or cuts it short. -/
theorem resume_cases (p : Unfinished) (b : UInt8) :
    (∃ c, resume p b = ([c], none)) ∨ (∃ next, resume p b = ([], some next)) ∨
      resume p b = (replacement :: (start b).1, (start b).2) := by
  unfold resume
  simp only
  split_ifs
  · exact .inl ⟨_, rfl⟩
  · exact .inr (.inl ⟨_, rfl⟩)
  · exact .inr (.inr rfl)

/-- How many characters are unfinished. -/
def pending : Option Unfinished → Nat
  | none => 0
  | some _ => 1

theorem countP_start (b : UInt8) :
    (start b).1.countP isForeign + pending (start b).2 ≤ [b].countP isLeading := by
  rcases start_cases b with ⟨hascii, hstart⟩ | ⟨hlead, p, hstart⟩ | hstart
  · have hvalid : b.toNat.isValidChar := .inl (by omega)
    have hplain : ¬ isForeign (scalar b.toNat) = true := by
      rw [isForeign, toNat_scalar hvalid, decide_eq_false (Nat.not_le.2 hascii)]
      exact Bool.false_ne_true
    rw [hstart, List.countP_cons_of_neg hplain]
    exact Nat.zero_le _
  · rw [hstart, List.countP_cons_of_pos hlead]
    exact Nat.le_refl _
  · rw [hstart]
    exact Nat.zero_le _

theorem countP_step (p : Option Unfinished) (b : UInt8) :
    (step p b).1.countP isForeign + pending (step p b).2 ≤ pending p + [b].countP isLeading := by
  have hstart := countP_start b
  cases p with
  | none => exact Nat.le_trans hstart (Nat.le_add_left _ _)
  | some p =>
      rw [step]
      rcases resume_cases p b with ⟨c, hresume⟩ | ⟨next, hresume⟩ | hresume
      · rw [hresume]
        exact Nat.le_trans List.countP_le_length (Nat.le_add_right _ _)
      · rw [hresume]
        exact Nat.le_add_right _ _
      · have hcut : ¬ isForeign replacement = true := by decide
        rw [hresume, List.countP_cons_of_neg hcut]
        exact Nat.le_trans hstart (Nat.le_add_left _ _)

/-- Each character beyond ASCII has a byte that it begins with. -/
theorem countP_decodeFrom (p : Option Unfinished) (bs : List UInt8) :
    (decodeFrom p bs).countP isForeign ≤ pending p + bs.countP isLeading := by
  induction bs generalizing p with
  | nil => cases p <;> exact Nat.zero_le _
  | cons b rest ih =>
      have hstep := countP_step p b
      have hrest := ih (step p b).2
      rw [decodeFrom, List.countP_append, ← List.singleton_append, List.countP_append]
      omega

end Utf8

/-! ## UTF-16 -/

namespace Utf16

variable {unit : UInt8 → UInt8 → Nat}

theorem le_of_mem_units (hunit : ∀ a b, a ≠ 0 → b ≠ 0 → 0x100 ≤ unit a b) (hbs : ∀ b ∈ bs, b ≠ 0) :
    ∀ u ∈ (units unit bs).1, 0x100 ≤ u := by
  induction bs using units.induct unit with
  | case1 a b rest us odd hrest ih =>
      rw [hrest] at ih
      rw [units, hrest]
      intro u hu
      rcases List.mem_cons.1 hu with rfl | hu
      · exact hunit a b (hbs a List.mem_cons_self) (hbs b (List.mem_cons_of_mem _ List.mem_cons_self))
      · exact ih (fun v hv ↦ hbs v (List.mem_cons_of_mem _ (List.mem_cons_of_mem _ hv))) u hu
  | case2 b => exact fun u hu ↦ absurd hu List.not_mem_nil
  | case3 => exact fun u hu ↦ absurd hu List.not_mem_nil

theorem le_of_mem_chars {odd : Bool} {us : List Nat} (h : ∀ u ∈ us, 0x100 ≤ u) :
    ∀ c ∈ chars odd us, 0x100 ≤ c.toNat := by
  have hmalformed : 0x100 ≤ replacement.toNat := by decide
  induction us using chars.induct odd with
  | case1 hodd =>
      rw [chars, if_pos hodd]
      exact List.forall_mem_singleton.2 hmalformed
  | case2 hodd =>
      rw [chars, if_neg hodd]
      exact List.forall_mem_nil _
  | case3 u hlead =>
      rw [chars, if_pos hlead]
      exact List.forall_mem_singleton.2 hmalformed
  | case4 u hlead ih =>
      obtain ⟨hu, hrest⟩ := List.forall_mem_cons.1 h
      rw [chars, if_neg hlead]
      exact List.forall_mem_cons.2 ⟨le_toNat_scalar hu, ih hrest⟩
  | case5 u t rest hlead htrail ih =>
      obtain ⟨-, hrest⟩ := List.forall_mem_cons.1 h
      rw [chars, if_pos hlead, if_pos htrail]
      refine List.forall_mem_cons.2 ⟨le_toNat_scalar ?_, ih (List.forall_mem_cons.1 hrest).2⟩
      omega
  | case6 u t rest hlead htrail ih =>
      rw [chars, if_pos hlead, if_neg htrail]
      exact List.forall_mem_cons.2 ⟨hmalformed, ih (List.forall_mem_cons.1 h).2⟩
  | case7 u t rest hlead ih =>
      obtain ⟨hu, hrest⟩ := List.forall_mem_cons.1 h
      rw [chars, if_neg hlead]
      exact List.forall_mem_cons.2 ⟨le_toNat_scalar hu, ih hrest⟩

/-- Without zeros no character has a number of one byte. -/
theorem countP_decode (hunit : ∀ a b, a ≠ 0 → b ≠ 0 → 0x100 ≤ unit a b) (hbs : ∀ b ∈ bs, b ≠ 0) :
    (decode unit bs).countP isNarrow = 0 := by
  refine List.countP_eq_zero.2 fun c hc hnarrow ↦ ?_
  have hc := le_of_mem_chars (le_of_mem_units hunit hbs) c hc
  rw [isNarrow, Bool.and_eq_true, decide_eq_true_eq] at hnarrow
  exact Nat.not_lt.2 hc hnarrow.1

theorem le_littleUnit (a b : UInt8) (_ : a ≠ 0) (hb : b ≠ 0) : 0x100 ≤ littleUnit a b := by
  have hb : b.toNat ≠ 0 := fun h ↦ hb (UInt8.toNat_inj.1 h)
  rw [littleUnit]
  omega

theorem le_bigUnit (a b : UInt8) (ha : a ≠ 0) (_ : b ≠ 0) : 0x100 ≤ bigUnit a b := by
  have ha : a.toNat ≠ 0 := fun h ↦ ha (UInt8.toNat_inj.1 h)
  rw [bigUnit]
  omega

end Utf16

/-! ## The code page -/

theorem char_of_isLeading {b : UInt8} (h : isLeading b = true) : Windows1252.char b = scalar b.toNat := by
  have hle : 0xC2 ≤ b.toNat := of_decide_eq_true h
  have hlt := b.toNat_lt
  have hvalid : b.toNat.isValidChar := .inl (by omega)
  have htable : ¬ (0x80 ≤ b ∧ b < 0xA0) := fun hb ↦ by
    have hb := UInt8.lt_iff_toNat_lt.1 hb.2
    exact absurd hb (Nat.not_lt.2 (Nat.le_trans (by decide) hle))
  rw [Windows1252.char, if_neg htable, scalar, if_pos hvalid]

/-- The code page has a character beyond ASCII for each byte that begins one in UTF-8. -/
theorem isForeign_char {b : UInt8} (h : isLeading b = true) : isForeign (Windows1252.char b) = true := by
  have hle : 0xC2 ≤ b.toNat := of_decide_eq_true h
  have hlt := b.toNat_lt
  have hnumber : (scalar b.toNat).toNat = b.toNat := toNat_scalar (.inl (by omega))
  have hblank : isBlank (scalar b.toNat) = false := by
    simp only [isBlank, hnumber, Bool.or_eq_false_iff, Bool.and_eq_false_iff, decide_eq_false_iff_not,
      beq_eq_false_iff_ne]
    omega
  have hne : scalar b.toNat ≠ replacement := fun heq ↦ by
    have hreplacement : (scalar b.toNat).toNat = 0xFFFD := congrArg Char.toNat heq
    omega
  rw [char_of_isLeading h, isForeign, hblank, hnumber, decide_eq_true (Nat.le_trans (by decide) hle),
    bne_iff_ne.2 hne]
  rfl

theorem countP_le_char (bs : List UInt8) :
    bs.countP isLeading ≤ (bs.map Windows1252.char).countP isForeign := by
  rw [List.countP_map]
  exact List.countP_mono_left fun b _ ↦ isForeign_char

/-! ## Titles with a mark in front -/

theorem utf8_ne (rest : List UInt8) : trimEnd (Utf8.decode rest) ≠
    trimEnd ((0xEF :: 0xBB :: 0xBF :: rest).map Windows1252.char) := by
  intro heq
  have hmark : (0xEF :: 0xBB :: 0xBF :: rest).countP isLeading = rest.countP isLeading + 1 := by
    rw [List.countP_cons_of_pos (by decide), List.countP_cons_of_neg (by decide),
      List.countP_cons_of_neg (by decide)]
  have hdecoded := Utf8.countP_decodeFrom none rest
  rw [Utf8.pending, Nat.zero_add] at hdecoded
  have hbytes := countP_le_char (0xEF :: 0xBB :: 0xBF :: rest)
  rw [← countP_trimEnd @isBlank_of_isForeign, ← heq, countP_trimEnd @isBlank_of_isForeign,
    hmark] at hbytes
  exact Nat.not_succ_le_self _ (Nat.le_trans hbytes hdecoded)

theorem utf16_ne {unit : UInt8 → UInt8 → Nat} {rest : List UInt8}
    (hunit : ∀ a b, a ≠ 0 → b ≠ 0 → 0x100 ≤ unit a b) (hrest : ∀ b ∈ rest, b ≠ 0) (hmem : 0xFE ∈ bs) :
    trimEnd (Utf16.decode unit rest) ≠ trimEnd (bs.map Windows1252.char) := by
  intro heq
  have hdecoded := Utf16.countP_decode hunit hrest
  rw [← countP_trimEnd @isBlank_of_isNarrow, heq, countP_trimEnd @isBlank_of_isNarrow] at hdecoded
  have hmark := List.countP_eq_zero.1 hdecoded _ (List.mem_map_of_mem hmem)
  exact hmark (by decide)

theorem title_ne_plain (h : Marked bs) : title bs .ansi ≠ plain bs := by
  have hzero := @ne_zero_of_mem_untilNul bs
  unfold title titleChars plain
  rw [ne_eq, String.ofList_inj]
  rcases marked_untilNul.2 h with ⟨rest, hrest⟩ | ⟨rest, hrest⟩ | ⟨rest, hrest⟩
  · rw [← hrest]
    exact utf8_ne rest
  · rw [← hrest] at hzero ⊢
    exact utf16_ne Utf16.le_littleUnit (fun b hb ↦ hzero (List.mem_append_right _ hb)) (by simp)
  · rw [← hrest] at hzero ⊢
    exact utf16_ne Utf16.le_bigUnit (fun b hb ↦ hzero (List.mem_append_right _ hb)) (by simp)

theorem title_eq_plain (h : ¬ Marked bs) : title bs .ansi = plain bs := by
  rw [title, titleChars, sniff_of_not_marked (fun hmark ↦ h (marked_untilNul.1 hmark))]
  rfl

theorem title_ansi_iff (bs : List UInt8) : title bs .ansi = plain bs ↔ ¬ Marked bs := by
  constructor
  · intro h hmark
    exact title_ne_plain hmark h
  · exact title_eq_plain

theorem title_append_nul (bs tail : List UInt8) (c : Charset) :
    title (bs ++ 0 :: tail) c = title bs c := by
  rw [title, title, titleChars, titleChars, untilNul_append_nul]

end Text

/-! ## The titles of a file -/

namespace SaveFile

open Text

variable {f : SaveFile}

theorem name_ansi_iff (h : f.charset = .ansi) :
    f.name = plain f.entry.fileName.toList ↔ ¬ Marked f.entry.fileName.toList := by
  rw [name, h]
  exact title_ansi_iff _

theorem comments_eq {image : Image} {raw : Bytes}
    (h : f.readAt image f.entry.commentAddress.toNat (2 * commentWidth) = .ok raw) :
    f.comments image = .ok (title (raw.slice 0 commentWidth) f.charset,
      title (raw.slice commentWidth commentWidth) f.charset) := by
  rw [comments, h]
  rfl

/-- A title of the code page is told byte by byte, whatever follows the first zero, exactly if it has no
byte-order mark in front. This goes for the name and the comments of every file with such titles. -/
theorem title_eq_plain_iff (bs tail : List UInt8) (f : SaveFile) :
    (title bs .ansi = plain bs ↔ ¬ Marked bs) ∧ title (bs ++ 0 :: tail) .ansi = title bs .ansi ∧
    (f.charset = .ansi → (f.name = plain f.entry.fileName.toList ↔ ¬ Marked f.entry.fileName.toList) ∧
      ∀ image raw, f.readAt image f.entry.commentAddress.toNat (2 * commentWidth) = .ok raw →
        ∃ first second, f.comments image = .ok (first, second) ∧
          (first = plain (raw.slice 0 commentWidth) ↔ ¬ Marked (raw.slice 0 commentWidth)) ∧
          (second = plain (raw.slice commentWidth commentWidth) ↔
            ¬ Marked (raw.slice commentWidth commentWidth))) := by
  refine ⟨title_ansi_iff bs, title_append_nul bs tail .ansi, fun h ↦ ⟨name_ansi_iff h, ?_⟩⟩
  intro image raw hraw
  refine ⟨_, _, comments_eq hraw, ?_, ?_⟩
  · rw [h]
    exact title_ansi_iff _
  · rw [h]
    exact title_ansi_iff _

/-- A name of four characters, and comments in the block at 5 of an image. -/
theorem title_eq_plain_iff_cafe :
    let fileName : Vector UInt8 32 := ⟨#[0x43, 0x61, 0x66, 0xE9] ++ .replicate 28 0, rfl⟩
    let f : SaveFile :=
      ⟨{ Entry.read (Bytes.fill 64 0) 0 with fileName }, [5], .lost .explicit true, {}, .ansi⟩
    f.name = "Café" ∧ ∃ image texts, f.comments image = .ok texts := by
  intro fileName f
  obtain ⟨hname, hcomments⟩ := (title_eq_plain_iff [] [] f).2.2 rfl
  have hmark : ¬ Marked fileName.toList := by
    unfold Marked
    decide
  have haddress : f.entry.commentAddress.toNat = 0 := by decide
  have hread {image : Image} {data : Bytes} (hblock : image.block 5 = .ok data) :
      f.readAt image f.entry.commentAddress.toNat (2 * commentWidth) =
        .ok (data.extract 0 64 ++ .empty) := by
    rw [haddress, readAt, if_pos (by decide), readChain, if_neg (by decide), if_neg (by decide),
      show UInt16.toNat 5 = 5 from rfl, hblock]
    rfl
  obtain ⟨bytes, hsize⟩ : ∃ bytes : Bytes, bytes.size = 6 * blockSize := ⟨_, Bytes.size_fill _ 0⟩
  have hblock : 5 < Image.blockCount ⟨bytes, none⟩ := by
    rw [Image.blockCount, Image.size, hsize]
    decide
  obtain ⟨first, second, hboth, -⟩ := hcomments _ _ (hread (if_pos hblock))
  exact ⟨(hname.2 hmark).trans rfl, _, _, hboth⟩

/-- A mark of three bytes in front of one letter. -/
theorem title_marked_letter :
    title [0xEF, 0xBB, 0xBF, 0x41] .ansi = "A" ∧ plain [0xEF, 0xBB, 0xBF, 0x41] = "ï»¿A" ∧
      title [0xEF, 0xBB, 0xBF, 0x41] .ansi ≠ plain [0xEF, 0xBB, 0xBF, 0x41] :=
  ⟨rfl, rfl, title_ne_plain (.inl ⟨[0x41], rfl⟩)⟩

end SaveFile
end MemoryCard
