import TargetLink.Transfer

/-!
# Loading an image

An image is copied to its address and the target started, in this order: an image that cannot be
copied in full starts nothing.
-/

namespace TargetLink

/-- Copies an image to an address and starts the target. -/
def loadAndStart {σ : Type} [ChunkMemory σ] (addr : TargetAddr) (image : List UInt8) :
    Action LinkError σ Unit := do
  Action.emit (.imageLoading addr image.length)
  Transfer.write addr image
  ChunkMemory.reset

end TargetLink
