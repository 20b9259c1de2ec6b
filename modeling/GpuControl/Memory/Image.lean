import GpuControl.Memory.Store

namespace GpuControl.Memory

/-- The memory whose region 0 an image holds; zero bytes need not be stored. -/
def ofImage (image : ByteArray) : Memory :=
  (image.foldl (fun (offset, m) b =>
    (offset + 1, if b = 0 then m else setByte m ⟨0, offset⟩ b)) (0, empty)).2

/-- The image with the bytes that memory holds in its place; what lies beyond its end is left
out. -/
def overImage (m : Memory) (image : ByteArray) : ByteArray :=
  m.written.fold (fun image cell b =>
    if h : cell.region = 0 ∧ cell.offset < image.size then image.set cell.offset b h.2
    else image) image

end GpuControl.Memory
