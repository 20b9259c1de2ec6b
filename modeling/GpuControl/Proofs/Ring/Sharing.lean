import GpuControl.Proofs.Ring.Fifo

namespace GpuControl

namespace RingAccess

/-- The dwords from the read pointer forward to `ptr`. -/
def contentsTo (rings : RingAccess) (status : RingStatus) (m : Memory) (ptr : UInt32) :
    List UInt32 :=
  (rings.store status).words m status.readPtr.toNat
    (slotsBetween (rings.store status).slots status.readPtr.toNat ptr.toNat)

/-- The host's write pointer is `ptr` and the ring holds `ws` up to it. The registers read as
`status`, but for the write pointer that was last announced. -/
def Placed (rings : RingAccess) (id : UInt8) (status : RingStatus) (s : RingMemory) (ptr : UInt32)
    (ws : List UInt32) : Prop :=
  ∃ announced : UInt32, rings.status s id = .ok { status with writePtr := announced } ∧
    writePtr s { status with writePtr := announced } = ptr ∧
    rings.contentsTo status s.memory ptr = ws

/-- The register and the host agree on the write pointer `ptr`, and `ws`, which is what the ring
holds up to it, is what the device can see. -/
structure Published (rings : RingAccess) (id : UInt8) (status : RingStatus) (s : RingMemory)
    (ptr : UInt32) (ws : List UInt32) : Prop where
  status_eq : rings.status s id = .ok status
  register_eq : status.writePtr = ptr
  shadow_eq : s.pointers.get id = some ptr
  pending_eq : rings.pending s status = ws
  announced_eq : rings.announcedCount status = ws.length

variable {rings : RingAccess} {id : UInt8} {status : RingStatus} {s : RingMemory} {ptr : UInt32}
  {ws : List UInt32}

/-- What is pending does not depend on the announced pointer, but on the host's. -/
theorem pending_eq_contentsTo (rings : RingAccess) (status : RingStatus) (s : RingMemory)
    (announced : UInt32) :
    rings.pending s { status with writePtr := announced } =
      rings.contentsTo status s.memory (writePtr s { status with writePtr := announced }) := rfl

/-- What was pending before a submission still lies before its words. -/
theorem Appended.contentsTo_eq {words : List UInt32} {now : RingMemory}
    (happended : rings.Appended id status words s now) :
    rings.contentsTo status now.memory (writePtr s status) = rings.pending s status := by
  have hpending := happended.pending_eq
  rw [pending, happended.backlog_eq, RingStore.words_add] at hpending
  apply List.append_inj_left hpending
  rw [RingStore.length_words, length_pending]

/-- Words that fit behind what the ring holds are accepted, and lie behind it. -/
theorem Placed.submit (hdisjoint : rings.WindowsDisjoint) (henabled : status.enabled = true)
    (hreach : rings.Reachable status) (hplaced : rings.Placed id status s ptr ws)
    {words : List UInt32} (hwords : words ≠ [])
    (hfits : 4 * (ws.length + words.length) + max rings.margin.toNat 4 ≤ status.size.toNat) :
    ∃ now, rings.submit id words s = (.ok (rings.advance status ptr words.length), now) ∧
      rings.Placed id status now (rings.advance status ptr words.length) (ws ++ words) ∧
      rings.contentsTo status now.memory ptr = ws := by
  obtain ⟨announced, hstatus, rfl, rfl⟩ := hplaced
  have hreach' : rings.Reachable { status with writePtr := announced } := hreach
  obtain ⟨now, hsubmit, -, happended⟩ :=
    submit_appended hdisjoint hstatus henabled hreach' hwords (hreach'.le_room hfits)
  refine ⟨now, hsubmit, ⟨announced, happended.status_eq, happended.writePtr_eq, ?_⟩,
    happended.contentsTo_eq⟩
  have hpending := happended.pending_eq
  rw [pending_eq_contentsTo, happended.writePtr_eq] at hpending
  exact hpending

/-- An announcement leaves the ring's words alone. -/
theorem contentsTo_announced (hdisjoint : rings.WindowsDisjoint) (hreach : rings.Reachable status)
    (announced ptr : UInt32) (m : Memory) :
    rings.contentsTo status (rings.announced id announced m) ptr =
      rings.contentsTo status m ptr :=
  RingStore.words_congr_of_sameBytes hreach.visible
    (sameBytes_announced_aperture hdisjoint id announced m) _ _

/-- Whatever pointer is announced stands, and the ring's words up to it are published. -/
theorem Placed.published_announced (hmap : rings.map = .gfx10) (hcovers : rings.Covers id)
    (hdisjoint : rings.WindowsDisjoint) (hreach : rings.Reachable status)
    (hplaced : rings.Placed id status s ptr ws) (next : UInt32) :
    rings.Published id { status with writePtr := next }
      ⟨rings.announced id next s.memory, s.pointers.set id next⟩ next
      (rings.contentsTo status s.memory next) := by
  obtain ⟨announced, hstatus, -, -⟩ := hplaced
  have hid : { status with writePtr := next }.id = id := (status_spec hstatus).2
  have hadmits := admits_wptrOffset hmap hcovers
  refine ⟨status_announced hmap hdisjoint hadmits hstatus _ next, rfl,
    WritePointers.get_set_self _ _ _, ?_, ?_⟩
  · have hnext : writePtr ⟨rings.announced id next s.memory, s.pointers.set id next⟩
        { status with writePtr := next } = next :=
      writePtr_set hid _ _ _
    rw [pending_eq_contentsTo, hnext]
    exact contentsTo_announced hdisjoint hreach next next s.memory
  · exact (RingStore.length_words _ _).symm

/-- What is published is held, whatever pointer was announced before. -/
theorem Published.placed
    (hpublished : rings.Published id { status with writePtr := ptr } s ptr ws) :
    rings.Placed id status s ptr ws := by
  have hptr : writePtr s { status with writePtr := ptr } = ptr :=
    writePtr_of_get (status_spec hpublished.status_eq).2 hpublished.shadow_eq
  refine ⟨ptr, hpublished.status_eq, hptr, ?_⟩
  have hpending := hpublished.pending_eq
  rw [pending_eq_contentsTo, hptr] at hpending
  exact hpending

end RingAccess

/-- The two clients of a ring. -/
inductive Client where
  | left
  | right
deriving DecidableEq, Repr

namespace Client

def other : Client → Client
  | left => right
  | right => left

end Client

/-- A ring and what its two clients did to it. -/
structure SharedRing where
  now : RingMemory
  /-- What the submissions returned, in the order in which they were made. -/
  returned : List (Client × UInt32) := []
  /-- The clients that have rung the doorbell, in order. -/
  rung : List Client := []

namespace SharedRing

/-- A client's next call: it submits its words, then it announces the pointer that it got. -/
def turn (rings : RingAccess) (id : UInt8) (words : Client → List UInt32) (h : SharedRing)
    (c : Client) : SharedRing :=
  match h.returned.lookup c with
  | none =>
    match rings.submit id (words c) h.now with
    | (.ok ptr, now) => { h with now, returned := h.returned ++ [(c, ptr)] }
    | (.error _, now) => { h with now }
  | some ptr =>
    if c ∈ h.rung then h
    else { h with now := (rings.ringDoorbell id ptr h.now).2, rung := h.rung ++ [c] }

def run (rings : RingAccess) (id : UInt8) (words : Client → List UInt32) (h : SharedRing)
    (turns : List Client) : SharedRing :=
  turns.foldl (turn rings id words) h

variable {rings : RingAccess} {id : UInt8} {words : Client → List UInt32} {h : SharedRing}
  {status : RingStatus} {ptr : UInt32} {ws : List UInt32} {c : Client}

/-- Its second turn announces the pointer that its own submission returned. -/
theorem turn_doorbell (hmap : rings.map = .gfx10) (hcovers : rings.Covers id)
    (hdisjoint : rings.WindowsDisjoint) (hreach : rings.Reachable status)
    (words : Client → List UInt32) (hplaced : rings.Placed id status h.now ptr ws) {next : UInt32}
    (hlookup : h.returned.lookup c = some next) (hrung : c ∉ h.rung) :
    ∃ now, h.turn rings id words c = { h with now, rung := h.rung ++ [c] } ∧
      rings.Published id { status with writePtr := next } now next
        (rings.contentsTo status h.now.memory next) ∧
      ∀ other, rings.contentsTo status now.memory other =
        rings.contentsTo status h.now.memory other := by
  have hid : id < rings.map.ringCount := by
    obtain ⟨_, hstatus, -, -⟩ := hplaced
    exact (RingAccess.status_spec hstatus).1
  refine ⟨_, ?_, hplaced.published_announced hmap hcovers hdisjoint hreach next, fun other =>
    RingAccess.contentsTo_announced hdisjoint hreach next other h.now.memory⟩
  simp only [turn, hlookup, hrung, if_false, RingAccess.ringDoorbell_of_lt _ _ hid]

/-- Client `x` alone has submitted, to a ring that held `old` before. -/
structure SubmittedOnce (rings : RingAccess) (id : UInt8) (words : Client → List UInt32)
    (status : RingStatus) (old : List UInt32) (x : Client) (p : UInt32) (rung : List Client)
    (h : SharedRing) : Prop where
  returned_eq : h.returned = [(x, p)]
  rung_eq : h.rung = rung
  placed : rings.Placed id status h.now p (old ++ words x)

/-- Both clients have submitted, `x` first, to a ring that held `old` before. -/
structure SubmittedTwice (rings : RingAccess) (id : UInt8) (words : Client → List UInt32)
    (status : RingStatus) (old : List UInt32) (x : Client) (p q : UInt32) (rung : List Client)
    (h : SharedRing) : Prop where
  returned_eq : h.returned = [(x, p), (x.other, q)]
  rung_eq : h.rung = rung
  placed : ∃ ptr ws, rings.Placed id status h.now ptr ws
  contentsTo_first : rings.contentsTo status h.now.memory p = old ++ words x
  contentsTo_second :
    rings.contentsTo status h.now.memory q = old ++ words x ++ words x.other

section Interleavings

variable {start : RingMemory} {old : List UInt32} {x : Client} {p q : UInt32}
  {rung : List Client}

/-- If the same client has the next turn, it rings, and its words stay where they are. -/
theorem SubmittedOnce.turn_doorbell (hmap : rings.map = .gfx10) (hcovers : rings.Covers id)
    (hdisjoint : rings.WindowsDisjoint) (hreach : rings.Reachable status)
    (honce : h.SubmittedOnce rings id words status old x p rung) (hrung : x ∉ rung) :
    (h.turn rings id words x).SubmittedOnce rings id words status old x p (rung ++ [x]) := by
  obtain ⟨hreturned, rfl, hplaced⟩ := honce
  have hlookup : h.returned.lookup x = some p := by
    rw [hreturned, List.lookup_cons_self]
  obtain ⟨now, hturn, hpublished, -⟩ := SharedRing.turn_doorbell hmap hcovers hdisjoint hreach
    words hplaced hlookup hrung
  obtain ⟨_, -, -, hcontents⟩ := hplaced
  rw [hcontents] at hpublished
  rw [hturn]
  exact ⟨hreturned, rfl, hpublished.placed⟩

/-- The pointer that a client announces stands, and neither submission is touched. -/
theorem SubmittedTwice.turn_doorbell (hmap : rings.map = .gfx10) (hcovers : rings.Covers id)
    (hdisjoint : rings.WindowsDisjoint) (hreach : rings.Reachable status)
    (htwice : h.SubmittedTwice rings id words status old x p q rung)
    (hlookup : h.returned.lookup c = some ptr) (hrung : c ∉ rung) :
    (h.turn rings id words c).SubmittedTwice rings id words status old x p q (rung ++ [c]) ∧
      rings.Published id { status with writePtr := ptr } (h.turn rings id words c).now ptr
        (rings.contentsTo status h.now.memory ptr) := by
  obtain ⟨hreturned, rfl, ⟨_, _, hplaced⟩, hfirst, hsecond⟩ := htwice
  obtain ⟨now, hturn, hpublished, hkept⟩ := SharedRing.turn_doorbell hmap hcovers hdisjoint hreach
    words hplaced hlookup hrung
  rw [hturn]
  exact ⟨⟨hreturned, rfl, ⟨_, _, hpublished.placed⟩, (hkept p).trans hfirst,
    (hkept q).trans hsecond⟩, hpublished⟩

end Interleavings

end SharedRing

end GpuControl
