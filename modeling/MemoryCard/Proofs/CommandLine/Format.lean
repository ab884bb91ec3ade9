import MemoryCard.CommandLine.Folder
import MemoryCard.Proofs.Card.Blank

/-! # Formatting

What is written when a card is formatted opens as a blank card. A size that cards do not come in is
refused before any file is touched.
-/

namespace MemoryCard

namespace CommandLine.Folder

variable {d : Folder} {ticks : UInt64} {o : BlankOptions}

theorem writeBlank_of_error {failure : Failure} (h : o.image ticks = .error failure)
    (path : String) : d.writeBlank ticks o path = (.error failure, d) := by
  rw [writeBlank, h]

end CommandLine.Folder

namespace BlankOptions

open CommandLine

/-- A blank card of an accepted size is made and opens with nothing wrong with it and nothing on it,
whatever the options and the clock say. A size that is not accepted is refused, and the folder stays as
it was. -/
theorem image_isBlank (o : BlankOptions) (ticks : UInt64) :
    (o.check = .ok () → ∃ bytes, o.image ticks = .ok bytes ∧
      ∀ path?, ∃ c, Card.ofImage ⟨bytes, path?⟩ = .ok c ∧ c.IsBlank o ticks) ∧
    (o.check ≠ .ok () → ∃ reason, o.image ticks = .error (.invalidArgument reason) ∧
      ∀ (d : Folder) path, d.writeBlank ticks o path = (.error (.invalidArgument reason), d)) := by
  constructor
  · intro h
    have himage : o.image ticks = .ok (o.bytes ticks) := image_eq_ok h
    refine ⟨_, himage, fun path? ↦ ?_⟩
    have hblank := Image.IsBlank.of_image himage path?
    exact ⟨_, Card.ofImage_blank hblank, Card.isBlank_opened hblank⟩
  · intro h
    rcases o.check_eq_ok_or with hcheck | ⟨reason, hcheck⟩
    · exact absurd hcheck h
    · have himage : o.image ticks = .error (.invalidArgument reason) := image_eq_error hcheck
      exact ⟨reason, himage, fun d ↦ Folder.writeBlank_of_error himage⟩

/-- A card of 64 blocks is made, and one of a hundred blocks is not. -/
theorem image_isBlank_sizes :
    (∃ bytes c, BlankOptions.image { blocks := 64, charset := .shiftJis } 0 = .ok bytes ∧
      Card.ofImage ⟨bytes, none⟩ = .ok c ∧ c.IsBlank { blocks := 64, charset := .shiftJis } 0) ∧
    ∃ reason, BlankOptions.image { blocks := 100 } 0 = .error (.invalidArgument reason) := by
  constructor
  · obtain ⟨bytes, himage, hopen⟩ :=
      (image_isBlank { blocks := 64, charset := .shiftJis } 0).1 (by decide)
    obtain ⟨c, hc, hblank⟩ := hopen none
    exact ⟨bytes, c, himage, hc, hblank⟩
  · obtain ⟨reason, himage, -⟩ := (image_isBlank { blocks := 100 } 0).2 (by decide)
    exact ⟨reason, himage⟩

end BlankOptions
end MemoryCard
