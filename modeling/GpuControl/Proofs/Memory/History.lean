import GpuControl.Proofs.Memory.Views

namespace GpuControl

namespace SimulatedBus

variable {bus : SimulatedBus}

/-- A store into simulated memory, by one of the ways in. -/
inductive StoreRequest (bus : SimulatedBus) where
  | poke32 (phys : UInt64) (value : UInt32)
  | poke64 (phys : UInt64) (value : UInt64)
  | write32 (w : LiveWindow bus) (offset : Nat) (value : UInt32)
  | write64 (w : LiveWindow bus) (offset : Nat) (value : UInt64)
  | writeBytes (w : LiveWindow bus) (offset : Nat) (bytes : List UInt8)
  /-- Into a view of `len` bytes, from its byte `place` on. -/
  | view (w : LiveWindow bus) (offset len place : Nat) (bytes : List UInt8)
  | register32 (w : LiveWindow bus) (offset : Nat) (value : UInt32)
  | register64 (w : LiveWindow bus) (offset : Nat) (value : UInt64)
  | modify (w : LiveWindow bus) (offset : Nat) (mask value : UInt32)
  | video (w : LiveWindow bus) (totalBytes : UInt64) (offset : Nat) (bytes : List UInt8)
  | videoNumbers (w : LiveWindow bus) (totalBytes : UInt64) (width offset : Nat)
    (values : List Nat)
  | videoView (w : LiveWindow bus) (totalBytes : UInt64) (offset len place : Nat)
    (bytes : List UInt8)
  | ring (w : LiveWindow bus) (barOffset slot : Nat) (value : UInt32)

namespace StoreRequest

/-- Opens a view and puts bytes at a place in it. -/
def putInView (open? : List UInt8 → Option (List UInt8 × Memory)) (m : Memory) (place : Nat)
    (bytes : List UInt8) : Memory :=
  match open? [] with
  | none => m
  | some (seen, _) => ((open? (seen.take place ++ bytes)).map (·.2)).getD m

def perform (m : Memory) : StoreRequest bus → Memory
  | .poke32 phys value => (bus.poke32 m phys value).2
  | .poke64 phys value => (bus.poke64 m phys value).2
  | .write32 w offset value => (w.window.write32 m offset value).getD m
  | .write64 w offset value => (w.window.write64 m offset value).getD m
  | .writeBytes w offset bytes => (w.window.writeBytes m offset bytes).getD m
  | .view w offset len place bytes =>
    putInView (w.window.updateView m offset len) m place bytes
  | .register32 w offset value => RegisterBlock.write32 ⟨w.window⟩ m offset value
  | .register64 w offset value => RegisterBlock.write64 ⟨w.window⟩ m offset value
  | .modify w offset mask value => RegisterBlock.modify ⟨w.window⟩ m offset mask value
  | .video w totalBytes offset bytes => (Aperture.write ⟨w.window, totalBytes⟩ m offset bytes).2
  | .videoNumbers w totalBytes width offset values =>
    (Aperture.writeNumbers ⟨w.window, totalBytes⟩ m width offset values).2
  | .videoView w totalBytes offset len place bytes =>
    putInView (Aperture.updateView ⟨w.window, totalBytes⟩ m offset len) m place bytes
  | .ring w barOffset slot value =>
    (DoorbellWindow.ring ⟨w.window, barOffset⟩ m slot value).getD m

/-- What a store into a view is to do. It ends with the view. -/
def storeInView (w : LiveWindow bus) (offset len place : Nat) (bytes : List UInt8) :
    Option PhysicalStore :=
  if w.Serves 1 offset len then some ⟨w.base + offset + place, bytes.take (len - place)⟩ else none

/-- What the request is to do where memory shows the bytes `p`. A request for which there is nothing
to do is refused. -/
def stores (p : PhysicalBytes) : StoreRequest bus → Option PhysicalStore
  | .poke32 phys value =>
    if phys.toNat % 4 = 0 ∧ bus.Backed phys 4 then some ⟨phys.toNat, LittleEndian.dword value⟩
    else none
  | .poke64 phys value =>
    if phys.toNat % 8 = 0 ∧ bus.Backed phys 8 then some ⟨phys.toNat, LittleEndian.qword value⟩
    else none
  | .write32 w offset value | .register32 w offset value =>
    w.storeAt 4 offset (LittleEndian.dword value)
  | .write64 w offset value | .register64 w offset value =>
    w.storeAt 8 offset (LittleEndian.qword value)
  | .writeBytes w offset bytes | .video w _ offset bytes => w.storeAt 1 offset bytes
  | .videoNumbers w _ width offset values =>
    w.storeAt 1 offset (values.flatMap (LittleEndian.encode width))
  | .view w offset len place bytes | .videoView w _ offset len place bytes =>
    storeInView w offset len place bytes
  | .modify w offset mask value =>
    let old := LittleEndian.toDword (p.load (w.base + offset) 4)
    w.storeAt 4 offset (LittleEndian.dword ((old &&& ~~~mask) ||| (value &&& mask)))
  | .ring w barOffset slot value =>
    w.storeAt 4 (slot + barOffset) (LittleEndian.dword value)

end StoreRequest

/-- The second memory is the first if nothing was to be done, else it shows what was. -/
def Carried (bus : SimulatedBus) (p : PhysicalBytes) (m m' : Memory) : Option PhysicalStore → Prop
  | none => m' = m
  | some s => bus.Shows m' (p.store s)

/-- A region that has the low dword of an aligned qword has the high one too. -/
theorem Sound.backed_qword (hsound : bus.Sound) {phys : UInt64} (haligned : phys.toNat % 8 = 0)
    (hbacked : bus.Backed phys 4) : bus.Backed phys 8 := by
  obtain ⟨r, hr, hbase, hend⟩ := hbacked
  have hbase' := UInt64.le_iff_toNat_le.1 hbase
  have hbase_mod := hsound.base_mod r hr
  have hsize_mod := hsound.size_mod r hr
  exact ⟨r, hr, hbase, by omega⟩

section Carrying

variable {m : Memory} {p : PhysicalBytes} (hsound : bus.Sound) (hshows : bus.Shows m p)
include hsound hshows

/-- Every store through a window is of this form. -/
theorem Shows.carried_storeAt (w : LiveWindow bus) (alignment offset : Nat) (bytes : List UInt8)
    {admitted : Prop} [Decidable admitted]
    (hadmitted : admitted ↔ w.Serves alignment offset bytes.length) :
    bus.Carried p m
      ((if admitted then some (m.store (w.window.cell offset) bytes) else none).getD m)
      (w.storeAt alignment offset bytes) := by
  by_cases hin : admitted
  · rw [if_pos hin, LiveWindow.storeAt, if_pos (hadmitted.1 hin)]
    exact hshows.store hsound fun _ hi => w.keeps_cell (hadmitted.1 hin).2 hi
  · rw [if_neg hin, LiveWindow.storeAt, if_neg (mt hadmitted.2 hin)]
    rfl

/-- A dword that a window admits is stored at the window's base plus the offset, and any other
nowhere. -/
theorem Shows.carried_write32 (w : LiveWindow bus) (offset : Nat) (value : UInt32) :
    bus.Carried p m ((w.window.write32 m offset value).getD m)
      (w.storeAt 4 offset (LittleEndian.dword value)) := by
  apply hshows.carried_storeAt hsound
  rw [LittleEndian.length_dword]
  rfl

theorem Shows.carried_write64 (w : LiveWindow bus) (offset : Nat) (value : UInt64) :
    bus.Carried p m ((w.window.write64 m offset value).getD m)
      (w.storeAt 8 offset (LittleEndian.qword value)) := by
  apply hshows.carried_storeAt hsound
  rw [LittleEndian.length_qword]
  rfl

/-- Bytes are stored wherever the window holds all of them; they need no alignment. -/
theorem Shows.carried_writeBytes (w : LiveWindow bus) (offset : Nat) (bytes : List UInt8) :
    bus.Carried p m ((w.window.writeBytes m offset bytes).getD m) (w.storeAt 1 offset bytes) := by
  apply hshows.carried_storeAt hsound
  exact LiveWindow.serves_one_iff.symm

/-- Opening a view puts its own bytes back before the place where others are put. -/
theorem Shows.carried_putInView (w : LiveWindow bus) (offset len place : Nat)
    (bytes : List UInt8) :
    bus.Carried p m
      (StoreRequest.putInView (w.window.updateView m offset len) m place bytes)
      (StoreRequest.storeInView w offset len place bytes) := by
  by_cases hin : w.window.Contains offset len
  · have hseen := hshows.load_cell w hin
    simp only [StoreRequest.putInView, Window.updateView, if_pos hin, Option.map_some,
      Option.getD_some, hseen]
    rw [StoreRequest.storeInView, if_pos (LiveWindow.serves_one_iff.2 hin), Carried,
      ← PhysicalBytes.store_load_take_append]
    apply hshows.store hsound
    intro i hi
    rw [List.length_take] at hi
    exact w.keeps_cell hin (by omega)
  · simp only [StoreRequest.putInView, Window.updateView, if_neg hin]
    rw [StoreRequest.storeInView, if_neg (mt LiveWindow.serves_one_iff.1 hin)]
    rfl

/-- What a masked write stores depends on the dword that was there last. -/
theorem Shows.carried_modify (w : LiveWindow bus) (offset : Nat) (mask value : UInt32) :
    bus.Carried p m (RegisterBlock.modify ⟨w.window⟩ m offset mask value)
      ((StoreRequest.modify w offset mask value).stores p) := by
  have hwrite (old : UInt32) := hshows.carried_write32 hsound w offset
    ((old &&& ~~~mask) ||| (value &&& mask))
  by_cases hin : w.window.Admits offset 4
  · have hold : RegisterBlock.read32 ⟨w.window⟩ m offset =
        LittleEndian.toDword (p.load (w.base + offset) 4) := by
      rw [RegisterBlock.read32, Window.read32, if_pos hin, Option.getD_some, Memory.loadDword,
        hshows.load_cell w hin.2]
    rw [RegisterBlock.modify, hold]
    exact hwrite _
  · -- The write is dropped, whatever the word that was read.
    rw [RegisterBlock.modify, RegisterBlock.write32, Window.write32, if_neg hin]
    rw [StoreRequest.stores, LiveWindow.storeAt, if_neg (by rwa [LittleEndian.length_dword])]
    rfl

theorem Shows.carried_write (w : LiveWindow bus) (totalBytes : UInt64) (offset : Nat)
    (bytes : List UInt8) :
    bus.Carried p m (Aperture.write ⟨w.window, totalBytes⟩ m offset bytes).2
      (w.storeAt 1 offset bytes) := by
  have hcarried := hshows.carried_writeBytes hsound w offset bytes
  unfold Aperture.write
  generalize w.window.writeBytes m offset bytes = result at hcarried
  cases result with
  | none => exact hcarried
  | some m' => exact hcarried

theorem Shows.carried_poke32 (phys : UInt64) (value : UInt32) :
    bus.Carried p m (bus.poke32 m phys value).2
      ((StoreRequest.poke32 phys value : StoreRequest bus).stores p) := by
  cases hcell : bus.dwordCell phys with
  | ok c =>
    rw [poke32, hcell, StoreRequest.stores, if_pos (exists_dwordCell_iff.1 ⟨c, hcell⟩)]
    refine hshows.store hsound fun i hi => keeps_of_locate (locate_of_dwordCell hcell) ?_
    rwa [LittleEndian.length_dword] at hi
  | error e =>
    rw [poke32, hcell, StoreRequest.stores, if_neg]
    · rfl
    · intro hadmitted
      obtain ⟨c, hok⟩ := exists_dwordCell_iff.2 hadmitted
      cases hcell.symm.trans hok

/-- From outside the driver a qword is written as two dwords, and both are there or neither is. -/
theorem Shows.carried_poke64 (phys : UInt64) (value : UInt64) :
    bus.Carried p m (bus.poke64 m phys value).2
      ((StoreRequest.poke64 phys value : StoreRequest bus).stores p) := by
  have hmod : phys % 8 = 0 ↔ phys.toNat % 8 = 0 := uint64_mod_eq_zero_iff
  by_cases haligned : phys.toNat % 8 = 0
  case neg =>
    rw [poke64, if_pos (mt hmod.1 haligned), StoreRequest.stores, if_neg (haligned ·.1)]
    rfl
  rw [poke64, if_neg (not_not_intro (hmod.2 haligned))]
  -- Either the low half is refused and nothing has changed, or the high half is not refused either.
  have hlow := hshows.carried_poke32 hsound phys value.toUInt32
  have hlow_mod : phys.toNat % 4 = 0 := by omega
  cases hcell : bus.dwordCell phys with
  | error e =>
    rw [poke32, hcell, StoreRequest.stores, if_neg]
    · rfl
    · rintro ⟨-, r, hr, hin⟩
      obtain ⟨c, hok⟩ := exists_dwordCell_iff.2
        ⟨hlow_mod, r, hr, hin.shorter (by decide)⟩
      cases hcell.symm.trans hok
  | ok c =>
    obtain ⟨-, hbacked⟩ := exists_dwordCell_iff.1 ⟨c, hcell⟩
    obtain ⟨r, hr, hin⟩ := hsound.backed_qword haligned hbacked
    have hnext : (phys + 4).toNat = phys.toNat + 4 := by
      have hlt := phys.toNat_lt
      have hfour : (4 : UInt64).toNat = 4 := rfl
      rw [UInt64.toNat_add, hfour]
      omega
    rw [StoreRequest.stores, if_pos ⟨hlow_mod, hbacked⟩] at hlow
    have hhigh := Shows.carried_poke32 hsound hlow (phys + 4) (value >>> 32).toUInt32
    rw [StoreRequest.stores, if_pos ⟨by omega, r, hr, hin.inside (by omega) hnext⟩, hnext] at hhigh
    rw [StoreRequest.stores, if_pos ⟨haligned, r, hr, hin⟩, LittleEndian.qword_eq, Carried,
      PhysicalBytes.store_append, LittleEndian.length_dword]
    simp only [poke32, hcell] at hhigh ⊢
    exact hhigh

/-- One request: if it is refused memory stays as it is, else it shows what was stored. -/
theorem Shows.perform (request : StoreRequest bus) :
    bus.Carried p m (request.perform m) (request.stores p) := by
  cases request with
  | poke32 phys value => exact hshows.carried_poke32 hsound phys value
  | poke64 phys value => exact hshows.carried_poke64 hsound phys value
  | write32 w offset value => exact hshows.carried_write32 hsound w offset value
  | register32 w offset value => exact hshows.carried_write32 hsound w offset value
  | ring w barOffset slot value => exact hshows.carried_write32 hsound w (slot + barOffset) value
  | write64 w offset value => exact hshows.carried_write64 hsound w offset value
  | register64 w offset value => exact hshows.carried_write64 hsound w offset value
  | writeBytes w offset bytes => exact hshows.carried_writeBytes hsound w offset bytes
  | video w totalBytes offset bytes => exact hshows.carried_write hsound w totalBytes offset bytes
  | videoNumbers w totalBytes width offset values =>
    exact hshows.carried_write hsound w totalBytes offset _
  | view w offset len place bytes => exact hshows.carried_putInView hsound w offset len place bytes
  | videoView w totalBytes offset len place bytes =>
    exact hshows.carried_putInView hsound w offset len place bytes
  | modify w offset mask value => exact hshows.carried_modify hsound w offset mask value

end Carrying

/-- Memory and the stores that were carried out, the latest first. -/
structure History where
  memory : Memory := .empty
  log : List PhysicalStore := []

namespace History

def step (h : History) (request : StoreRequest bus) : History :=
  ⟨request.perform h.memory, (request.stores (.lastStored h.log)).toList ++ h.log⟩

def run (requests : List (StoreRequest bus)) : History := requests.foldl step {}

def Faithful (bus : SimulatedBus) (h : History) : Prop :=
  bus.Shows h.memory (.lastStored h.log)

/-- One request keeps memory in step with the stores that were carried out. -/
theorem Faithful.step (hsound : bus.Sound) {h : History} (hfaithful : h.Faithful bus)
    (request : StoreRequest bus) : (h.step request).Faithful bus := by
  have hcarried := Shows.perform hsound hfaithful request
  unfold Faithful History.step
  cases hstores : request.stores (.lastStored h.log) with
  | none =>
    rw [hstores] at hcarried
    rw [show request.perform h.memory = h.memory from hcarried]
    exact hfaithful
  | some s =>
    rw [hstores] at hcarried
    rw [Option.toList_some, List.singleton_append, PhysicalBytes.lastStored_cons]
    exact hcarried

/-- By induction on the requests, so does every run. -/
theorem faithful_run (hsound : bus.Sound) (requests : List (StoreRequest bus)) :
    (run requests).Faithful bus := by
  -- A run goes on from any history, so the start is left open.
  have hrun (h : History) (hfaithful : h.Faithful bus) :
      (requests.foldl History.step h).Faithful bus := by
    induction requests generalizing h with
    | nil => exact hfaithful
    | cons request requests ih => exact ih _ (hfaithful.step hsound request)
  exact hrun {} bus.shows_empty

/-- However memory was written, all reads return the bytes that were stored last at their physical
addresses, a request that is refused changes nothing, and every window reports what it did. -/
theorem views_agree (hsound : bus.Sound) (requests : List (StoreRequest bus)) :
    let h := run requests
    bus.ReadsAs h.memory (.lastStored h.log) ∧
    (∀ request : StoreRequest bus, request.stores (.lastStored h.log) = none →
      request.perform h.memory = h.memory) ∧
    ∀ w : LiveWindow bus, w.Reports h.memory := by
  have hfaithful := faithful_run hsound requests
  refine ⟨Shows.readsAs hfaithful, fun request hstores => ?_, fun w => w.reports _⟩
  have hcarried := Shows.perform hsound hfaithful request
  rwa [hstores] at hcarried

end History

/-- A bus with two runs of memory, neither of them of whole qwords as it was asked for. -/
def twoRuns : SimulatedBus := (({} : SimulatedBus).addMemory 0x1000 30).addMemory 0x2000 12

theorem twoRuns_sound : twoRuns.Sound :=
  sound_of_ranges (show twoRuns.regions =
    [(0x1000, 30), (0x2000, 12)].map fun range => .ofLength range.1 range.2 from rfl)
    (by decide) (by decide)

/-- The first run, and a part of it. -/
def firstRun : LiveWindow twoRuns :=
  .ofMapping .registers
    (show twoRuns.mapPhysical 0x1000 32 = (.ok ⟨0x1000, ⟨0, 0⟩, 32⟩, _) from rfl)

def innerPart : LiveWindow twoRuns :=
  .ofMapping .aperture
    (show twoRuns.mapPhysical 0x1008 10 = (.ok ⟨0x1008, ⟨0, 8⟩, 10⟩, _) from rfl)

/-- A qword from outside, of which half a word is replaced through the inner window, and then two
stores that end outside it. -/
def twoRunsRequests : List (StoreRequest twoRuns) :=
  [.poke64 0x1008 0x1122334455667788, .modify innerPart 4 0xFFFF 0xABCDABCD,
    .video innerPart 0 8 [1, 2, 3], .ring innerPart 0x8 0xFFFFFFFFFFFFFFF8 7]

namespace History

/-- Two windows, one within the other, are written in turn; each shows what the other wrote. -/
theorem views_agree_sample :
    twoRuns.Sound ∧
    twoRuns.peek32 (run twoRunsRequests).memory 0x100C = .ok 0x1122ABCD ∧
    firstRun.window.read64 (run twoRunsRequests).memory 8 = some 0x1122ABCD55667788 ∧
    Aperture.read ⟨innerPart.window, 0⟩ (run twoRunsRequests).memory 3 3 =
      some [0x55, 0xCD, 0xAB] ∧
    RegisterBlock.read32 ⟨innerPart.window⟩ (run twoRunsRequests).memory 8 = sentinel := by
  have hreads := (views_agree twoRuns_sound twoRunsRequests).1
  refine ⟨twoRuns_sound, ?_, (hreads.read64 _ _).trans (by decide),
    (hreads.video _ _ _ _).trans (by decide), (hreads.register32 _ _).trans (by decide)⟩
  rw [hreads.peek32, if_neg (by decide), if_pos (by decide)]
  exact congrArg _ (by decide)

end History

end SimulatedBus

end GpuControl
