import GpuControl.Proofs.Packet.Stream

namespace GpuControl

section Words

variable {buffer : Array UInt32} {start i : Nat} {words : List UInt32}

/-- Words written inside the buffer are found where they were written. -/
theorem extract_writeWords (hroom : start + words.length ≤ buffer.size) :
    ((writeWords buffer start words).extract start (start + words.length)).toList = words := by
  have hbefore : (buffer.toList.take start).length = start := by
    rw [List.length_take, Array.length_toList]
    omega
  rw [Array.toList_extract, List.extract_eq_take_drop, toList_writeWords hroom, List.append_assoc,
    List.drop_left' hbefore, Nat.add_sub_cancel_left, List.take_left]

theorem getElem?_writeWords_of_outside (houtside : i < start ∨ start + words.length ≤ i) :
    (writeWords buffer start words)[i]? = buffer[i]? := by
  induction words generalizing buffer start with
  | nil => rfl
  | cons w ws ih =>
    rw [List.length_cons] at houtside
    rw [writeWords, ih (by omega), Array.getElem?_setIfInBounds_ne (by omega)]

end Words

namespace Packet

variable {shBase start : Nat} {p : Packet} {buffer : Array UInt32}

/-- The only packet without words is the pause of no words. -/
theorem length_eq_zero_iff : p.length = 0 ↔ p = .nop 0 := by
  cases p with
  | nop words => rw [length, nop.injEq]
  | setRegisters offset values => simp [length]
  | dispatch x y z initiator => simp [length]
  | acquire flags => simp [length]

/-- Everything that placing a packet can come to. -/
inductive EncodeOutcome (shBase : Nat) (p : Packet) (buffer : Array UInt32) (start : Nat) :
    Except DriverError Nat × Array UInt32 → Prop
  | empty (hp : p = .nop 0) : EncodeOutcome shBase p buffer start (.ok start, buffer)
  | placed (hregister : p.NamesRegister shBase) (hpos : 0 < p.length)
    (hlength : p.length ≤ maxPacketWords) (hroom : start + p.length ≤ buffer.size) :
    EncodeOutcome shBase p buffer start
      (.ok (start + p.length), writeWords buffer start (p.image shBase))
  | badRegister {offset : Nat} {values : List UInt32} (hp : p = .setRegisters offset values)
    (hregister : ¬p.NamesRegister shBase) :
    EncodeOutcome shBase p buffer start (.error (.invalidRegister offset shBase), buffer)
  | tooLong (hlength : maxPacketWords < p.length) :
    EncodeOutcome shBase p buffer start
      (.error (.encodingOverflow p.length maxPacketWords), buffer)
  | noRoom (hpos : 0 < p.length) (hroom : buffer.size < start + p.length) :
    EncodeOutcome shBase p buffer start
      (.error (.encodingOverflow (saturatingAdd start p.length) buffer.size), buffer)

/-- Placing a packet always comes to one of these. -/
theorem encodeAt_outcome (shBase : Nat) (p : Packet) (buffer : Array UInt32) (start : Nat) :
    EncodeOutcome shBase p buffer start (p.encodeAt shBase buffer start) := by
  unfold encodeAt
  by_cases hregister : p.NamesRegister shBase
  · by_cases hlength : p.length ≤ maxPacketWords
    · rw [words_eq_image hregister hlength]
      have hcount := length_image shBase p
      cases himage : p.image shBase with
      | nil =>
        rw [himage] at hcount
        exact .empty (length_eq_zero_iff.1 hcount.symm)
      | cons header payload =>
        have hpos : 0 < p.length := by
          rw [← hcount, himage]
          exact Nat.succ_pos _
        simp only [← himage, length_image]
        split
        next hroom => exact .placed hregister hpos hlength hroom
        next hroom => exact .noRoom hpos (Nat.lt_of_not_le hroom)
    · rw [words_of_too_long hregister (Nat.lt_of_not_le hlength)]
      exact .tooLong (Nat.lt_of_not_le hlength)
  · cases p with
    | setRegisters offset values =>
      rw [words_of_not_names hregister]
      exact .badRegister rfl hregister
    | nop _ => exact absurd trivial hregister
    | dispatch _ _ _ _ => exact absurd trivial hregister
    | acquire _ => exact absurd trivial hregister

/-- A refused packet leaves the buffer as it was. -/
theorem encodeAt_error {e : DriverError} (he : (p.encodeAt shBase buffer start).1 = .error e) :
    (p.encodeAt shBase buffer start).2 = buffer := by
  have houtcome := encodeAt_outcome shBase p buffer start
  generalize p.encodeAt shBase buffer start = result at houtcome he
  cases houtcome with
  | empty => rfl
  | placed => cases he
  | badRegister => rfl
  | tooLong => rfl
  | noRoom => rfl

theorem encodeAt_nop_zero (shBase : Nat) (buffer : Array UInt32) (start : Nat) :
    (nop 0).encodeAt shBase buffer start = (.ok start, buffer) := rfl

theorem encodeAt_ok_iff (hp : p ≠ .nop 0) :
    (∃ stop, (p.encodeAt shBase buffer start).1 = .ok stop) ↔
      p.length ≤ maxPacketWords ∧ start + p.length ≤ buffer.size ∧ p.NamesRegister shBase := by
  have houtcome := encodeAt_outcome shBase p buffer start
  generalize p.encodeAt shBase buffer start = result at houtcome
  cases houtcome with
  | empty hempty => exact absurd hempty hp
  | placed hregister _ hlength hroom =>
    exact ⟨fun _ => ⟨hlength, hroom, hregister⟩, fun _ => ⟨_, rfl⟩⟩
  | badRegister _ hregister => exact ⟨nofun, fun h => absurd h.2.2 hregister⟩
  | tooLong hlength => exact ⟨nofun, fun h => absurd h.1 (Nat.not_le.2 hlength)⟩
  | noRoom _ hroom => exact ⟨nofun, fun h => absurd h.2.1 (Nat.not_le.2 hroom)⟩

/-- A packet that is not empty lies where it was placed, and nothing else has changed. -/
theorem encodeAt_placed (hp : p ≠ .nop 0) {stop : Nat}
    (hstop : (p.encodeAt shBase buffer start).1 = .ok stop) :
    stop = start + p.length ∧ stop ≤ buffer.size ∧
      (p.encodeAt shBase buffer start).2 = writeWords buffer start (p.image shBase) ∧
      ∃ payload, p.image shBase = headerWord p.opcode.code p.length :: payload := by
  have houtcome := encodeAt_outcome shBase p buffer start
  generalize p.encodeAt shBase buffer start = result at houtcome hstop
  cases houtcome with
  | empty hempty => exact absurd hempty hp
  | placed hregister hpos hlength hroom =>
    cases hstop
    obtain ⟨payload, -, -, himage⟩ := image_eq_cons hregister hpos
    exact ⟨rfl, hroom, rfl, payload, himage⟩
  | badRegister => cases hstop
  | tooLong => cases hstop
  | noRoom => cases hstop

/-- A packet is placed whole or not at all. If it is refused, the buffer is as it was. If it is
placed, its image lies between the start and the position returned, which is inside the buffer: a
header of type 3 with the packet's opcode and the number of words placed, then the payload; every
other word is as before. It is placed exactly if a header can describe its length, the buffer
reaches to its end, and the register it names, if it names one, has an index. A pause of no words
is placed anywhere and writes nothing. -/
theorem encodeAt_whole_or_nothing (shBase : Nat) (p : Packet) (buffer : Array UInt32)
    (start : Nat) :
    let result := p.encodeAt shBase buffer start
    (∀ e, result.1 = .error e → result.2 = buffer) ∧
    (p = .nop 0 → result = (.ok start, buffer)) ∧
    (p ≠ .nop 0 →
      ((∃ stop, result.1 = .ok stop) ↔ p.length ≤ 16384 ∧ start + p.length ≤ buffer.size ∧
        ∀ offset values, p = .setRegisters offset values →
          ∃ index, registerIndex shBase offset = .ok index) ∧
      ∀ stop, result.1 = .ok stop → stop = start + p.length ∧ stop ≤ buffer.size ∧
        (result.2.extract start stop).toList = p.image shBase ∧
        (∃ header payload, p.image shBase = header :: payload ∧
          PacketHeader.decode header = ⟨3, stop - start, p.opcode.code⟩) ∧
        result.2.size = buffer.size ∧
        ∀ i, i < start ∨ stop ≤ i → result.2[i]? = buffer[i]?) := by
  intro result
  refine ⟨fun e => encodeAt_error, ?_, ?_⟩
  · rintro rfl
    exact encodeAt_nop_zero shBase buffer start
  · intro hp
    have hok : (∃ stop, result.1 = .ok stop) ↔ _ := encodeAt_ok_iff hp
    constructor
    · rw [hok, namesRegister_iff]
      rfl
    · intro stop hstop
      obtain ⟨hlength, -, -⟩ := hok.1 ⟨stop, hstop⟩
      obtain ⟨hend, hin, hbuffer, payload, himage⟩ := encodeAt_placed hp hstop
      have hpos : 0 < p.length := Nat.pos_of_ne_zero (mt length_eq_zero_iff.1 hp)
      have hcount : stop = start + (p.image shBase).length := by rw [hend, length_image]
      have hbuffer : result.2 = writeWords buffer start (p.image shBase) := hbuffer
      rw [hbuffer]
      refine ⟨hend, hin, ?_, ⟨_, payload, himage, ?_⟩, size_writeWords _ _ _, ?_⟩
      · rw [hcount]
        exact extract_writeWords (hcount ▸ hin)
      · rw [decode_headerWord p.opcode.code hpos hlength, hend, Nat.add_sub_cancel_left]
      · intro i houtside
        exact getElem?_writeWords_of_outside (hcount ▸ houtside)

end Packet

end GpuControl
