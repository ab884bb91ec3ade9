import MemoryCard.Proofs.Card.Consistency
import MemoryCard.Proofs.Careful.Tables

/-! # Operating a card carefully

Opening a card claims the blocks of its regular files in the usage map, which has an element for each
block of the card. The walks through the allocation table give no other blocks, so each of them has
its element. Operations look at the lost files, which begin behind the regular ones. While other
tables are put in use the list is empty and the number of regular files still the old one, but the
lost files are not asked for until both fit again.
-/

namespace MemoryCard

open Careful

/-! ## Listing files -/

namespace Usage

/-- Claim the blocks of a chain, and tell whether one of them had been claimed before. -/
def claim? (u : Usage) : List UInt16 → Option (Usage × Bool)
  | [] => some (u, false)
  | block :: rest => do
    let count := bump (← u[block.toNat]?)
    let (claimed, collides) ← claim? (u.setIfInBounds block.toNat count) rest
    return (claimed, 1 < count || collides)

theorem claim?_eq (u : Usage) {chain : List UInt16} (h : ∀ b ∈ chain, b.toNat < u.size) :
    u.claim? chain = some (u.claim chain, u.collides chain) := by
  induction chain generalizing u with
  | nil => rfl
  | cons b rest ih =>
      have hb := h b List.mem_cons_self
      have hrest : ∀ x ∈ rest, x.toNat < (u.claimBlock b).size := fun x hx ↦ by
        rw [size_claimBlock]
        exact h x (List.mem_cons_of_mem _ hx)
      have hget : u[b.toNat]? = some (u.count b) := by
        rw [count, Array.getElem?_eq_getElem hb]
        rfl
      have hbump : (u.claimBlock b).count b = bump (u.count b) := by
        rw [count_claimBlock u hb, if_pos rfl]
      rw [claim?, hget, collides, hbump]
      show ((u.claimBlock b).claim? rest >>= _) = _
      rw [ih _ hrest]
      rfl

end Usage

namespace Listing

def build? (allocation : Allocation) (size : UInt16) (charset : Charset) (usage : Usage) :
    List (Nat × Entry) → Option Listing
  | [] => some ⟨[], usage⟩
  | (slot, entry) :: rest =>
    match allocation.walk entry.firstBlock entry.length size with
    | .error _ => build? allocation size charset usage rest
    | .ok walk => do
      let (claimed, crossLinked) ← usage.claim? walk.blocks
      let file : SaveFile := {
        entry
        chain := walk.blocks
        origin := .regular slot
        issues := { Issues.ofWalk walk with crossLinked }
        charset := charset.forRegion entry.region }
      let others ← build? allocation size charset claimed rest
      return ⟨file :: others.files, others.usage⟩

variable {allocation : Allocation} {size : UInt16} {charset : Charset}

/-- All blocks of a walk have their elements in the usage map. -/
theorem build?_eq {usage : Usage} (husage : usage.size = size.toNat) (slots : List (Nat × Entry)) :
    build? allocation size charset usage slots =
      some (build allocation size charset usage slots) := by
  induction slots generalizing usage with
  | nil => rfl
  | cons head rest ih =>
      obtain ⟨slot, entry⟩ := head
      cases hwalk : allocation.walk entry.firstBlock entry.length size with
      | error failure =>
          rw [build?, build, file?, hwalk]
          exact ih husage
      | ok walk =>
          have hblocks : ∀ b ∈ walk.blocks, b.toNat < usage.size := fun b hb ↦ by
            rw [husage]
            exact (isDataBlock_iff.1 ((Allocation.walk_proper hwalk).isData b hb)).2
          rw [build?, build, file?, hwalk]
          show (usage.claim? walk.blocks >>= _) = _
          rw [usage.claim?_eq hblocks]
          show (build? allocation size charset (usage.claim walk.blocks) rest >>= _) = _
          rw [ih (by rw [Usage.size_claim, husage])]
          rfl

def ofTables? (tables : Tables) (size : UInt16) (charset : Charset) : Option Listing :=
  build? tables.allocation size charset (Usage.blank size) tables.directory.used

theorem ofTables?_eq (tables : Tables) (size : UInt16) (charset : Charset) :
    ofTables? tables size charset = some (ofTables tables size charset) :=
  build?_eq (Usage.size_blank size) _

end Listing

namespace Card

variable {c : Card}

def ofImage? (image : Image) : Careful Card := do
  of (need "card image" (systemBlocks.toNat * blockSize) image.size)
  let size := (min image.blockCount 0xFFFF).toUInt16
  let block ← image.block? 0
  let header ← Header.decode? block
  let headerSum ← Header.sumSeal.verify? block
  let tables ← ask (Tables.load? image size)
  let listing ← ask (Listing.ofTables? tables size header.charset)
  return {
    image, header, headerSum, size, tables
    sizeConditions := Conditions.ofLength image.size
    files := listing.files
    regularCount := listing.files.length
    usage := listing.usage }

theorem ofImage?_eq (image : Image) : ofImage? image = of (ofImage image) := by
  unfold ofImage? ofImage
  refine of_bind fun _ _ ↦ ?_
  rw [image.block?_eq]
  refine of_bind fun block _ ↦ ?_
  rw [Header.decode?_eq]
  refine of_bind fun header _ ↦ ?_
  rw [Seal.verify?_eq (by decide)]
  refine of_bind fun headerSum _ ↦ ?_
  rw [Tables.load?_eq, ask_some, of_ok_bind, Listing.ofTables?_eq]
  rfl

/-! ## The lost files -/

def lostFiles? (c : Card) : Option (List SaveFile) := dropped? c.files c.regularCount

theorem lostFiles?_eq (h : c.regularCount ≤ c.files.length) : c.lostFiles? = some c.lostFiles :=
  dropped?_eq h

def lostCount? (c : Card) : Option Nat := difference? c.files.length c.regularCount

theorem lostCount?_eq (h : c.regularCount ≤ c.files.length) :
    c.lostCount? = some c.lostFiles.length := by
  rw [lostCount?, difference?_eq h, lostFiles, List.length_drop]

def lostBlocks? (c : Card) : Option (List UInt16) := do
  return (← c.lostFiles?).flatMap SaveFile.chain

theorem lostBlocks?_eq (h : c.regularCount ≤ c.files.length) :
    c.lostBlocks? = some c.lostBlocks := by
  rw [lostBlocks?, lostFiles?_eq h]
  rfl

/-! ## Operations -/

def append? (c : Card) (files : List SaveFile) : Option (Card × List Event) :=
  if files.isEmpty then some (c, [])
  else do
    let first := c.files.length
    let last ← difference? (first + files.length) 1
    return ({ c with files := c.files ++ files }, [.aboutToInsert first last, .inserted])

theorem append?_eq (c : Card) (files : List SaveFile) :
    c.append? files = some (c.append files) := by
  cases files with
  | nil => rfl
  | cons f rest =>
      have hone : 1 ≤ c.files.length + (f :: rest).length :=
        Nat.le_trans (List.length_pos_of_mem List.mem_cons_self) (Nat.le_add_left _ _)
      simp only [append?, append, difference?_eq hone]
      rfl

def dropFrom? (c : Card) (first : Nat) : Option (Card × List Event) :=
  if c.files.length ≤ first then some (c, [])
  else do
    let last ← difference? c.files.length 1
    return ({ c with files := c.files.take first }, [.aboutToRemove first last, .removed])

theorem dropFrom?_eq (c : Card) (first : Nat) : c.dropFrom? first = some (c.dropFrom first) := by
  unfold dropFrom? dropFrom
  split
  · rfl
  · rename_i h
    rw [difference?_eq (Nat.zero_lt_of_lt (Nat.not_le.1 h))]
    rfl

def switch? (c : Card) (select : Tables → Except Failure (Tables × Bool)) :
    Option (Outcome Unit) := do
  let (emptied, removal) ← c.dropFrom? 0
  match select emptied.tables with
  | .error failure => return ⟨.error failure, emptied, removal⟩
  | .ok (tables, _) =>
    let listing ← Listing.ofTables? tables emptied.size emptied.charset
    let relisted := { emptied with
      tables, usage := listing.usage, regularCount := listing.files.length }
    let (card, insertion) ← relisted.append? listing.files
    return ⟨.ok (), card, removal ++ insertion ++ [.blockCount card.dataSize card.free]⟩

theorem switch?_eq (c : Card) (select : Tables → Except Failure (Tables × Bool)) :
    c.switch? select = some (c.switch select) := by
  unfold switch? switch
  rw [dropFrom?_eq]
  obtain ⟨emptied, removal⟩ := c.dropFrom 0
  simp only [Option.bind_eq_bind, Option.bind_some]
  cases select emptied.tables with
  | error failure => rfl
  | ok selected =>
      obtain ⟨tables, changed⟩ := selected
      simp only [Listing.ofTables?_eq, append?_eq]
      rfl

def selectDirectory? (c : Card) (n : UInt8) : Option (Outcome Unit) :=
  if 1 < n then some ⟨.error (.noSuchCopy n), c, []⟩
  else if n.toNat = c.tables.directories.inUse.val then some ⟨.ok (), c, []⟩
  else c.switch? (·.selectDirectory n)

theorem selectDirectory?_eq (c : Card) (n : UInt8) :
    c.selectDirectory? n = some (c.selectDirectory n) := by
  unfold selectDirectory? selectDirectory
  split_ifs
  · rfl
  · rfl
  · exact c.switch?_eq _

def selectAllocation? (c : Card) (n : UInt8) : Option (Outcome Unit) :=
  if 1 < n then some ⟨.error (.noSuchCopy n), c, []⟩
  else if n.toNat = c.tables.allocations.inUse.val then some ⟨.ok (), c, []⟩
  else c.switch? (·.selectAllocation n)

theorem selectAllocation?_eq (c : Card) (n : UInt8) :
    c.selectAllocation? n = some (c.selectAllocation n) := by
  unfold selectAllocation? selectAllocation
  split_ifs
  · rfl
  · rfl
  · exact c.switch?_eq _

def addSalvaged? (c : Card) : Except Failure SaveFile → Option (Outcome Nat)
  | .error failure => some ⟨.error failure, c, []⟩
  | .ok file => do
    let (card, events) ← c.append? [file]
    return ⟨.ok c.files.length, card, events⟩

theorem addSalvaged?_eq (c : Card) (file : Except Failure SaveFile) :
    c.addSalvaged? file = some (c.addSalvaged file) := by
  cases file with
  | error failure => rfl
  | ok file =>
      rw [addSalvaged?, append?_eq]
      rfl

def addLost? (c : Card) (e : Entry) : Option (Outcome Nat) := do
  let lost ← c.lostBlocks?
  c.addSalvaged? (c.salvage (.ofList lost) e e.firstBlock e.stopBlock)

def addLostChain? (c : Card) (e : Entry) (chain : List UInt16) : Option (Outcome Nat) := do
  let lost ← c.lostBlocks?
  c.addSalvaged? (Proposal.ofChain c.size e chain >>= c.accept (.ofList lost) e)

def addSightings? (c : Card) (sightings : List Sighting) : Option (Outcome (List Nat)) := do
  let lost ← c.lostBlocks?
  let files := c.salvageAll (.ofList lost) sightings
  let (card, events) ← c.append? files
  return ⟨.ok (List.range' c.files.length files.length), card, events⟩

def removeLost? (c : Card) : Option (Outcome Unit) := do
  let (card, events) ← c.dropFrom? c.regularCount
  return ⟨.ok (), card, events⟩

end Card

namespace Operation

def perform? (c : Card) : Operation → Option (Outcome (List Nat))
  | .selectDirectory n => (c.selectDirectory? n).map (·.indices fun _ ↦ [])
  | .selectAllocation n => (c.selectAllocation? n).map (·.indices fun _ ↦ [])
  | .addLost e => (c.addLost? e).map (·.indices fun i ↦ [i])
  | .addLostChain e chain => (c.addLostChain? e chain).map (·.indices fun i ↦ [i])
  | .addSightings sightings => c.addSightings? sightings
  | .removeLost => c.removeLost?.map (·.indices fun _ ↦ [])

/-- With the regular files at the front of the list, every operation finds what it asks for. -/
theorem perform?_eq {c : Card} (h : c.regularCount ≤ c.files.length) (o : Operation) :
    o.perform? c = some (o.apply c) := by
  have hlost := Card.lostBlocks?_eq h
  cases o with
  | selectDirectory n => rw [perform?, Card.selectDirectory?_eq]; rfl
  | selectAllocation n => rw [perform?, Card.selectAllocation?_eq]; rfl
  | addLost e =>
      rw [perform?, Card.addLost?, hlost]
      show Option.map _ (c.addSalvaged? _) = _
      rw [Card.addSalvaged?_eq]
      rfl
  | addLostChain e chain =>
      rw [perform?, Card.addLostChain?, hlost]
      show Option.map _ (c.addSalvaged? _) = _
      rw [Card.addSalvaged?_eq]
      rfl
  | addSightings sightings =>
      rw [perform?, Card.addSightings?, hlost]
      show (c.append? _ >>= _) = _
      rw [Card.append?_eq]
      rfl
  | removeLost =>
      rw [perform?, Card.removeLost?, Card.dropFrom?_eq]
      rfl

def run? (c : Card) : List Operation → Option Card
  | [] => some c
  | o :: rest => do run? (← o.perform? c).card rest

/-- Consistent cards stay consistent, so the regular files stay at the front of the list. -/
theorem run?_eq {c : Card} (h : c.Consistent) (os : List Operation) :
    run? c os = some (run c os) := by
  induction os generalizing c with
  | nil => rfl
  | cons o rest ih =>
      rw [run?, perform?_eq h.regularCount_le]
      exact ih (h.apply o)

end Operation

end MemoryCard
