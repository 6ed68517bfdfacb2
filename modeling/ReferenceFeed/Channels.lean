import ReferenceFeed.Flow

namespace ReferenceFeed

/-!
Channels inside a state, as those see them who pass calls on. A channel lives as long as somebody holds it.
Whoever passes a call on to several channels holds all of them until each has had its turn, so that no channel
ends while it is being called.
-/

/-- How channels are called, and how they are held. -/
structure Channels (σ χ : Type) where
  /-- Makes a call to a channel. -/
  call : χ → Signal → Flow σ Unit
  /-- Takes a hold on each of some channels. -/
  hold : List χ → σ → σ
  /-- Gives up one hold that was taken. A channel that nobody holds any more ends there and then. -/
  release : χ → Flow σ Unit

namespace Channels

variable {σ χ : Type} (c : Channels σ χ)

/-- Gives up holds that are kept nowhere else any more. Those whose turn has not come yet are still held. -/
def letGo (held : List χ) : Flow σ Unit := do
  modify (c.hold held)
  held.forM c.release

end Channels

end ReferenceFeed
