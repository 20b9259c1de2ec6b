import GpuControl.Proofs.Ring.Doorbell
import GpuControl.Proofs.Ring.Effect

namespace GpuControl

namespace RingAccess

/-- Submits a chunk and then each of the others, as far as the first that is refused. The pointer is
that which the last submission returns. -/
def submitChunks (rings : RingAccess) (id : UInt8) (chunk : List UInt32) :
    List (List UInt32) → RingMemory → Except DriverError UInt32 × RingMemory
  | [], s => rings.submit id chunk s
  | next :: rest, s =>
    match rings.submit id chunk s with
    | (.error e, s) => (.error e, s)
    | (.ok _, s) => submitChunks rings id next rest s

/-- The registers of ring `id` read as `status` before each of the chunks. -/
def Steady (rings : RingAccess) (id : UInt8) (status : Except DriverError RingStatus)
    (chunk : List UInt32) : List (List UInt32) → RingMemory → Prop
  | [], s => rings.status s id = status
  | next :: rest, s =>
    rings.status s id = status ∧ Steady rings id status next rest (rings.submit id chunk s).2

/-- Two submissions come to the same: both are refused, or both are accepted and leave the same. -/
inductive SameEffect : Except DriverError UInt32 × RingMemory →
    Except DriverError UInt32 × RingMemory → Prop
  | refused {e e' : DriverError} {s s' : RingMemory} : SameEffect (.error e, s) (.error e', s')
  | accepted {ptr : UInt32} {s s' : RingMemory} (hpointers : s.pointers = s'.pointers)
    (hbytes : ∀ c, s.memory.byte c = s'.memory.byte c) : SameEffect (.ok ptr, s) (.ok ptr, s')

namespace SameEffect

theorem refl (x : Except DriverError UInt32 × RingMemory) : SameEffect x x := by
  obtain ⟨result, s⟩ := x
  cases result with
  | error e => exact .refused
  | ok ptr => exact .accepted rfl fun _ => rfl

theorem trans {x y z : Except DriverError UInt32 × RingMemory} (hxy : SameEffect x y)
    (hyz : SameEffect y z) : SameEffect x z := by
  cases hxy with
  | refused =>
    cases hyz with
    | refused => exact .refused
  | accepted hpointers hbytes =>
    cases hyz with
    | accepted hpointers' hbytes' =>
      exact .accepted (hpointers.trans hpointers') fun c => (hbytes c).trans (hbytes' c)

/-- Of two submissions with the same effect, both succeed or neither does. -/
theorem exists_ok_iff {x y : Except DriverError UInt32 × RingMemory} (hsame : SameEffect x y) :
    (∃ ptr, x.1 = .ok ptr) ↔ ∃ ptr, y.1 = .ok ptr := by
  cases hsame with
  | refused => exact ⟨nofun, nofun⟩
  | accepted => exact Iff.rfl

end SameEffect

variable {rings : RingAccess} {id : UInt8} {chunk more : List UInt32} {rest : List (List UInt32)}
  {s after : RingMemory} {status : RingStatus} {ptr : UInt32}

/-- Windows that share no byte keep the registers steady, if the device does. -/
theorem steady_of_disjoint (hdisjoint : rings.registers.window.Disjoint rings.aperture.window)
    (id : UInt8) (chunk : List UInt32) (rest : List (List UInt32)) (s : RingMemory) :
    rings.Steady id (rings.status s id) chunk rest s := by
  induction rest generalizing chunk s with
  | nil => rfl
  | cons next rest ih =>
    refine ⟨rfl, ?_⟩
    rw [← status_submit hdisjoint id id chunk s]
    exact ih next _

theorem Steady.status_eq {start : Except DriverError RingStatus}
    (hsteady : rings.Steady id start chunk rest s) : rings.status s id = start := by
  cases rest with
  | nil => exact hsteady
  | cons next rest => exact hsteady.1

/-- Where words are refused, more words are. -/
theorem Refusal.append {e : DriverError} (why : rings.Refusal id chunk s e) (more : List UInt32) :
    ∃ e', rings.Refusal id (chunk ++ more) s e' := by
  cases why with
  | invalid hid => exact ⟨_, .invalid hid⟩
  | disabled hstatus hdisabled => exact ⟨_, .disabled hstatus hdisabled⟩
  | unreachable hstatus henabled hwords hreach =>
    exact ⟨_, .unreachable hstatus henabled (List.append_ne_nil_of_left_ne_nil hwords _) hreach⟩
  | full hstatus henabled hwords hreach hfull =>
    refine ⟨_, .full hstatus henabled (List.append_ne_nil_of_left_ne_nil hwords _) hreach ?_⟩
    rw [List.length_append]
    omega

/-- Pointers are reduced at every step, so that two steps lead where one does. -/
theorem Reachable.pointerAfter_pointerAfter (hreach : rings.Reachable status)
    (hptr : writePtr after status = rings.pointerAfter s status chunk.length)
    (more : List UInt32) :
    rings.pointerAfter after status more.length =
      rings.pointerAfter s status (chunk ++ more).length := by
  change rings.advance status (writePtr after status) more.length = _
  rw [hptr, List.length_append]
  exact hreach.advance_advance (writePtr s status) _ _

/-- Words after words that were copied: they are accepted if and only if all of them would have been
at once, because each part takes its own length from the free bytes. -/
theorem submit_append_of_copied {m : Memory} (hstatus : rings.status s id = .ok status)
    (henabled : status.enabled = true) (hchunk : chunk ≠ []) (hreach : rings.Reachable status)
    (hroom : chunk.length * 4 ≤ rings.room s status)
    (hcopied : (rings.store status).Copied (writePtr s status).toNat chunk s.memory m)
    (hafter : after = ⟨m, s.pointers.set id (rings.pointerAfter s status chunk.length)⟩)
    (hkept : rings.status after id = .ok status) (hmore : more ≠ []) :
    SameEffect (rings.submit id more after) (rings.submit id (chunk ++ more) s) := by
  have hboth : chunk ++ more ≠ [] := List.append_ne_nil_of_left_ne_nil hchunk _
  have hcount : 0 < chunk.length := List.length_pos_iff.2 hchunk
  have hrest : rings.room after status + chunk.length * 4 = rings.room s status := by
    rw [hafter]
    exact hreach.room_set_pointerAfter hstatus m hcount hroom
  have hptr : writePtr after status = rings.pointerAfter s status chunk.length := by
    rw [hafter]
    exact writePtr_set (status_spec hstatus).2 _ _ _
  by_cases hfits : more.length * 4 ≤ rings.room after status
  · have hall : (chunk ++ more).length * 4 ≤ rings.room s status := by
      rw [List.length_append]
      omega
    obtain ⟨parts, hparts, hsecond⟩ := submit_of_room hkept henabled hmore hreach hfits
    obtain ⟨whole, hwhole, hatOnce⟩ := submit_of_room hstatus henabled hboth hreach hall
    have hslot : ((writePtr s status).toNat + chunk.length) % (rings.store status).slots =
        (writePtr after status).toNat % (rings.store status).slots := by
      rw [hptr, hreach.toNat_pointerAfter, Nat.mod_mod]
    have hlength := hreach.lt_slots_of_room (List.length_pos_iff.2 hboth) hall
    rw [List.length_append] at hlength
    subst hafter
    have hinTurn := hcopied.append (hsecond.of_mod_eq hslot) (by omega)
    rw [hparts, hwhole, hreach.pointerAfter_pointerAfter hptr more]
    exact .accepted (WritePointers.set_set _ _ _ _) fun c => hatOnce.byte_congr hinTurn rfl
  · have hall : rings.room s status < (chunk ++ more).length * 4 := by
      rw [List.length_append]
      omega
    rw [submit_of_refusal (.full hkept henabled hmore hreach (Nat.lt_of_not_le hfits)),
      submit_of_refusal (.full hstatus henabled hboth hreach hall)]
    exact .refused

/-- Behind a submission that succeeded, another one has the effect of both in one. -/
theorem submit_append_of_ok (hsubmit : rings.submit id chunk s = (.ok ptr, after))
    (hkept : rings.status after id = rings.status s id) (more : List UInt32) :
    SameEffect (rings.submit id more after) (rings.submit id (chunk ++ more) s) := by
  have houtcome := submit_outcome rings id chunk s
  rw [hsubmit] at houtcome
  cases houtcome with
  | nothing _ _ hchunk =>
    rw [hchunk, List.nil_append]
    exact .refl _
  | copied hstatus henabled hchunk hreach hroom hcopied =>
    have hkept := hkept.trans hstatus
    by_cases hmore : more = []
    · rw [hmore, List.append_nil, hsubmit, submit_nil hkept henabled,
        writePtr_set (status_spec hstatus).2]
      exact .refl _
    · exact submit_append_of_copied hstatus henabled hchunk hreach hroom hcopied rfl hkept hmore

/-- By induction on the chunks, submitting them in turn has the effect of submitting them as one. -/
theorem submitChunks_sameEffect
    (hsteady : rings.Steady id (rings.status s id) chunk rest s) :
    SameEffect (rings.submitChunks id chunk rest s)
      (rings.submit id (chunk :: rest).flatten s) := by
  induction rest generalizing chunk s with
  | nil =>
    rw [List.flatten_singleton]
    exact .refl _
  | cons next rest ih =>
    obtain ⟨-, hsteady⟩ := hsteady
    rw [submitChunks, List.flatten_cons]
    cases hsubmit : rings.submit id chunk s with
    | mk result after =>
      rw [hsubmit] at hsteady
      have hkept := hsteady.status_eq
      cases result with
      | error e =>
        have why : rings.Refusal id chunk s e := submit_eq_error_iff.1 (by rw [hsubmit])
        obtain ⟨e', why'⟩ := why.append (next :: rest).flatten
        rw [submit_of_refusal why']
        exact .refused
      | ok ptr =>
        rw [← hkept] at hsteady
        exact (ih hsteady).trans (submit_append_of_ok hsubmit hkept _)

/-- How words are cut into chunks does not matter, as long as the ring's registers read the same
before every chunk: the chunks are all accepted if and only if the whole is, and then the last of
them returns the pointer that the whole returns, the host's pointers are the same and so is every
byte of memory. -/
theorem submitChunks_eq_whole (rings : RingAccess) (id : UInt8) (chunk : List UInt32)
    (rest : List (List UInt32)) (s : RingMemory)
    (hsteady : rings.Steady id (rings.status s id) chunk rest s) :
    let parts := rings.submitChunks id chunk rest s
    let whole := rings.submit id (chunk :: rest).flatten s
    ((∃ ptr, parts.1 = .ok ptr) ↔ ∃ ptr, whole.1 = .ok ptr) ∧
    ∀ ptr, whole.1 = .ok ptr → parts.1 = .ok ptr ∧ parts.2.pointers = whole.2.pointers ∧
      ∀ c, parts.2.memory.byte c = whole.2.memory.byte c := by
  intro parts whole
  have hsame : SameEffect parts whole := submitChunks_sameEffect hsteady
  refine ⟨hsame.exists_ok_iff, ?_⟩
  clear_value parts whole
  intro ptr hok
  cases hsame with
  | refused => cases hok
  | accepted hpointers hbytes => exact ⟨hok, hpointers, hbytes⟩

/-- Five words in three chunks, one of them empty; the second part goes around the end of the ring,
and the write pointer register is beyond that end to begin with. -/
theorem submitChunks_eq_whole_sample :
    let s := RingMemory.sample 64
    let store := sample.store ⟨1, 0x100, 13, 29, 64, true⟩
    let parts := sample.submitChunks 1 [1, 2] [[], [3, 4, 5]] s
    let whole := sample.submit 1 [1, 2, 3, 4, 5] s
    sample.Steady 1 (sample.status s 1) [1, 2] [[], [3, 4, 5]] s ∧ whole.1 = .ok 2 ∧
      parts.1 = .ok 2 ∧ parts.2.pointers = whole.2.pointers ∧
      (∀ c, parts.2.memory.byte c = whole.2.memory.byte c) ∧
      store.words whole.2.memory 13 5 = [1, 2, 3, 4, 5] ∧
      store.words parts.2.memory 13 5 = [1, 2, 3, 4, 5] := by
  intro s store parts whole
  have hsteady := steady_of_disjoint windowsDisjoint_sample.registers_aperture 1 [1, 2]
    [[], [3, 4, 5]] s
  obtain ⟨hptr, hlands⟩ := submit_lands (status_sample 64) rfl
    (List.cons_ne_nil 1 [2, 3, 4, 5]) (by decide) (by decide)
  have hwhole : whole.1 = .ok 2 := hptr
  have hwords : store.words whole.2.memory 13 5 = [1, 2, 3, 4, 5] :=
    (RingStore.words_mod_congr (by decide) 5).trans hlands
  obtain ⟨-, hparts⟩ := submitChunks_eq_whole sample 1 [1, 2] [[], [3, 4, 5]] s hsteady
  obtain ⟨hok, hpointers, hbytes⟩ := hparts 2 hwhole
  refine ⟨hsteady, hwhole, hok, hpointers, hbytes, hwords, ?_⟩
  exact (RingStore.words_congr fun _ _ c _ => hbytes c).trans hwords

end RingAccess

end GpuControl
