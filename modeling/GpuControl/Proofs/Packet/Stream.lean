import GpuControl.Proofs.Packet.Image

namespace GpuControl

/-- Words written inside the buffer take the place of those that were there. -/
theorem toList_writeWords {buffer : Array UInt32} {start : Nat} {words : List UInt32}
    (hroom : start + words.length ≤ buffer.size) :
    (writeWords buffer start words).toList =
      buffer.toList.take start ++ words ++ buffer.toList.drop (start + words.length) := by
  induction words generalizing buffer start with
  | nil => simp only [writeWords, List.append_nil, List.length_nil, Nat.add_zero,
      List.take_append_drop]
  | cons w ws ih =>
    rw [List.length_cons] at hroom
    have hstart : start < buffer.toList.length := by
      rw [Array.length_toList]
      omega
    have hset : (buffer.setIfInBounds start w).toList = buffer.toList.set start w :=
      Array.toList_setIfInBounds
    have htake : (buffer.toList.set start w).take (start + 1) =
        buffer.toList.take start ++ [w] := by
      rw [List.take_add_one, List.take_set_of_le (Nat.le_refl start),
        List.getElem?_set_self hstart, Option.toList_some]
    have hdrop : (buffer.toList.set start w).drop (start + 1 + ws.length) =
        buffer.toList.drop (start + (ws.length + 1)) := by
      rw [List.drop_set_of_lt (by omega), Nat.add_assoc, Nat.add_comm 1]
    rw [writeWords, ih (by rw [Array.size_setIfInBounds]; omega), hset, htake, hdrop,
      List.append_assoc, List.append_assoc, List.append_assoc]
    rfl

/-- Packets that stand one after the other take as many words as they say together. -/
theorem length_flatMap_image (shBase : Nat) (packets : List Packet) :
    (packets.flatMap (Packet.image shBase)).length = (packets.map Packet.length).sum := by
  rw [List.length_flatMap]
  simp only [Packet.length_image]

namespace CommandStream

/-- The words of a stream are those that its length counts. -/
@[simp] theorem length_words (s : CommandStream) : s.words.length = s.length := by
  have hle := s.length_le
  rw [words, List.length_take, Array.length_toList]
  omega

theorem length_add_remaining (s : CommandStream) : s.length + s.remaining = s.capacity :=
  Nat.add_sub_of_le s.length_le

theorem length_of_words_append {s s' : CommandStream} {words : List UInt32}
    (hwords : s'.words = s.words ++ words) : s'.length = s.length + words.length := by
  rw [← length_words s', hwords, List.length_append, length_words]

/-- Everything that appending a packet can come to, with the error of each refusal. -/
inductive AppendOutcome (s : CommandStream) (p : Packet) :
    Except DriverError Unit × CommandStream → Prop
  | appended {s' : CommandStream} (hregister : p.NamesRegister s.shBase)
    (hlength : p.length ≤ maxPacketWords) (hroom : p.length ≤ s.remaining)
    (hwords : s'.words = s.words ++ p.image s.shBase) (hcapacity : s'.capacity = s.capacity)
    (hbase : s'.shBase = s.shBase) : AppendOutcome s p (.ok (), s')
  | badRegister {offset : Nat} {values : List UInt32} (hp : p = .setRegisters offset values)
    (hregister : ¬p.NamesRegister s.shBase) :
    AppendOutcome s p (.error (.invalidRegister offset s.shBase), s)
  | tooLong (hregister : p.NamesRegister s.shBase) (hlength : maxPacketWords < p.length) :
    AppendOutcome s p (.error (.encodingOverflow p.length maxPacketWords), s)
  | noRoom (hregister : p.NamesRegister s.shBase) (hlength : p.length ≤ maxPacketWords)
    (hroom : s.remaining < p.length) :
    AppendOutcome s p
      (.error (.encodingOverflow (saturatingAdd s.length p.length) s.capacity), s)

/-- Appending a packet always comes to one of these. -/
theorem append_outcome (s : CommandStream) (p : Packet) : AppendOutcome s p (s.append p) := by
  by_cases hregister : p.NamesRegister s.shBase
  · by_cases hlength : p.length ≤ maxPacketWords
    · have hwords := Packet.words_eq_image hregister hlength
      have htotal := s.length_add_remaining
      change s.length + s.remaining = s.buffer.size at htotal
      unfold append
      simp only [hwords, Packet.length_image]
      split
      case isTrue hroom =>
        have hfits : s.length + (p.image s.shBase).length ≤ s.buffer.size := by
          rw [Packet.length_image]
          exact hroom
        have hkept : (s.buffer.toList.take s.length).length = s.length := s.length_words
        refine .appended hregister hlength (by omega) ?_ ?_ rfl
        · simp only [words, toList_writeWords hfits]
          apply List.take_left'
          rw [List.length_append, hkept, Packet.length_image]
        · exact size_writeWords _ _ _
      case isFalse hroom => exact .noRoom hregister hlength (by omega)
    · have hlength : maxPacketWords < p.length := Nat.lt_of_not_le hlength
      unfold append
      rw [Packet.words_of_too_long hregister hlength]
      exact .tooLong hregister hlength
  · cases p with
    | setRegisters offset values =>
      unfold append
      rw [Packet.words_of_not_names hregister]
      exact .badRegister rfl hregister
    | nop _ => exact absurd trivial hregister
    | dispatch _ _ _ _ => exact absurd trivial hregister
    | acquire _ => exact absurd trivial hregister

/-- A refused packet leaves the stream as it was. -/
theorem append_error {s : CommandStream} {p : Packet} {e : DriverError}
    (he : (s.append p).1 = .error e) : s.append p = (.error e, s) := by
  have houtcome := s.append_outcome p
  generalize s.append p = result at houtcome he
  cases houtcome with
  | appended => cases he
  | badRegister =>
    cases he
    rfl
  | tooLong =>
    cases he
    rfl
  | noRoom =>
    cases he
    rfl

/-- A packet is refused exactly for its register, its length or want of room. -/
theorem append_error_iff (s : CommandStream) (p : Packet) :
    (∃ e, (s.append p).1 = .error e) ↔
      ¬p.NamesRegister s.shBase ∨ maxPacketWords < p.length ∨ s.remaining < p.length := by
  have houtcome := s.append_outcome p
  generalize s.append p = result at houtcome
  cases houtcome with
  | appended hregister hlength hroom =>
    constructor
    · rintro ⟨e, he⟩
      cases he
    · rintro (hnot | hlong | hfull)
      · exact absurd hregister hnot
      · omega
      · omega
  | badRegister _ hregister => exact ⟨fun _ => .inl hregister, fun _ => ⟨_, rfl⟩⟩
  | tooLong _ hlength => exact ⟨fun _ => .inr (.inl hlength), fun _ => ⟨_, rfl⟩⟩
  | noRoom _ _ hroom => exact ⟨fun _ => .inr (.inr hroom), fun _ => ⟨_, rfl⟩⟩

/-- Everything that appending packets one after the other can come to: all of them are appended, or
those before the first that is refused. -/
inductive AppendAllOutcome (s : CommandStream) (packets : List Packet) :
    Except DriverError Unit × CommandStream → Prop
  | appended {s' : CommandStream}
    (hwell : ∀ p ∈ packets, p.NamesRegister s.shBase ∧ p.length ≤ maxPacketWords)
    (hroom : (packets.map Packet.length).sum ≤ s.remaining)
    (hwords : s'.words = s.words ++ packets.flatMap (Packet.image s.shBase))
    (hcapacity : s'.capacity = s.capacity) (hbase : s'.shBase = s.shBase) :
    AppendAllOutcome s packets (.ok (), s')
  | stopped {s' : CommandStream} {before after : List Packet} {p : Packet} {e : DriverError}
    (hpackets : packets = before ++ p :: after) (hbefore : s.appendAll before = (.ok (), s'))
    (hrefused : s'.append p = (.error e, s')) : AppendAllOutcome s packets (.error e, s')

theorem appendAll_cons_of_ok {s next : CommandStream} {p : Packet} {u : Unit}
    (hfirst : s.append p = (.ok u, next)) (ps : List Packet) :
    s.appendAll (p :: ps) = next.appendAll ps := by
  simp only [appendAll, hfirst]

/-- What becomes of the packets behind one that is appended becomes of all of them. -/
theorem AppendAllOutcome.cons {s next : CommandStream} {p : Packet} {ps : List Packet} {u : Unit}
    {result : Except DriverError Unit × CommandStream} (hfirst : s.append p = (.ok u, next))
    (hrest : next.AppendAllOutcome ps result) : s.AppendAllOutcome (p :: ps) result := by
  have houtcome := s.append_outcome p
  rw [hfirst] at houtcome
  cases houtcome with
  | appended hregister hlength hroom hwords hcapacity hbase =>
    cases hrest with
    | appended hwell hroom' hwords' hcapacity' hbase' =>
      rw [hbase] at hwell hwords'
      refine .appended ?_ ?_ ?_ (hcapacity'.trans hcapacity) (hbase'.trans hbase)
      · intro q hq
        rcases List.mem_cons.1 hq with rfl | hq
        · exact ⟨hregister, hlength⟩
        · exact hwell q hq
      · have hgrown := length_of_words_append hwords
        have htotal := s.length_add_remaining
        have htotal' := next.length_add_remaining
        rw [Packet.length_image] at hgrown
        rw [List.map_cons, List.sum_cons]
        omega
      · rw [hwords', hwords, List.flatMap_cons, List.append_assoc]
    | stopped hpackets hbefore hrefused =>
      exact .stopped (congrArg (p :: ·) hpackets) ((appendAll_cons_of_ok hfirst _).trans hbefore)
        hrefused

/-- By induction on the packets, so does appending several. -/
theorem appendAll_outcome (s : CommandStream) (packets : List Packet) :
    AppendAllOutcome s packets (s.appendAll packets) := by
  induction packets generalizing s with
  | nil => exact .appended (by simp) (Nat.zero_le _) (List.append_nil _).symm rfl rfl
  | cons p ps ih =>
    cases hfirst : s.append p with
    | mk answer next =>
      cases answer with
      | ok u =>
        rw [appendAll_cons_of_ok hfirst]
        exact .cons hfirst (ih next)
      | error e =>
        cases hfirst.symm.trans (append_error (congrArg Prod.fst hfirst))
        simp only [appendAll, hfirst]
        exact .stopped (List.nil_append _).symm rfl hfirst

/-- Packets that are all appended stand behind what was there, whole and in order. -/
theorem appendAll_ok {s s' : CommandStream} {packets : List Packet} {u : Unit}
    (happend : s.appendAll packets = (.ok u, s')) :
    s'.words = s.words ++ packets.flatMap (Packet.image s.shBase) ∧ s'.shBase = s.shBase ∧
      ∀ p ∈ packets, p.NamesRegister s.shBase ∧ p.length ≤ maxPacketWords := by
  have houtcome := s.appendAll_outcome packets
  rw [happend] at houtcome
  cases houtcome with
  | appended hwell _ hwords _ hbase => exact ⟨hwords, hbase, hwell⟩

theorem capacity_appendAll {s s' : CommandStream} {packets : List Packet} {u : Unit}
    (happend : s.appendAll packets = (.ok u, s')) : s'.capacity = s.capacity := by
  have houtcome := s.appendAll_outcome packets
  rw [happend] at houtcome
  cases houtcome with
  | appended _ _ _ hcapacity => exact hcapacity

theorem length_appendAll {s s' : CommandStream} {packets : List Packet} {u : Unit}
    (happend : s.appendAll packets = (.ok u, s')) :
    s'.length = s.length + (packets.map Packet.length).sum := by
  obtain ⟨hwords, -, -⟩ := appendAll_ok happend
  rw [length_of_words_append hwords, length_flatMap_image]

/-- Packets are all appended exactly if each is well formed and there is room for all of them. -/
theorem appendAll_ok_iff (s : CommandStream) (packets : List Packet) :
    (s.appendAll packets).1 = .ok () ↔
      (∀ p ∈ packets, p.NamesRegister s.shBase ∧ p.length ≤ maxPacketWords) ∧
        (packets.map Packet.length).sum ≤ s.remaining := by
  have houtcome := s.appendAll_outcome packets
  generalize s.appendAll packets = result at houtcome
  cases houtcome with
  | appended hwell hroom => exact ⟨fun _ => ⟨hwell, hroom⟩, fun _ => rfl⟩
  | @stopped s' before after p e hpackets hbefore hrefused =>
    refine ⟨nofun, ?_⟩
    rintro ⟨hwell, hroom⟩
    obtain ⟨-, hbase, -⟩ := appendAll_ok hbefore
    have hcapacity := capacity_appendAll hbefore
    have hlength := length_appendAll hbefore
    have htotal := s.length_add_remaining
    have htotal' := s'.length_add_remaining
    obtain ⟨hregister, hcount⟩ := hwell p (by simp [hpackets])
    have hsum : (packets.map Packet.length).sum =
        (before.map Packet.length).sum + p.length + (after.map Packet.length).sum := by
      simp [hpackets, Nat.add_assoc]
    rcases (s'.append_error_iff p).1 ⟨e, congrArg Prod.fst hrefused⟩ with hnot | hlong | hfull
    · rw [hbase] at hnot
      exact absurd hregister hnot
    · omega
    · omega

end CommandStream

/-- What a client can call on a stream. -/
inductive StreamCall where
  | nop (words : Nat)
  | setRegister (offset : Nat) (value : UInt32)
  | setRegisters (offset : Nat) (values : List UInt32)
  | dispatchDirect (x y z initiator : UInt32)
  | acquireMem (flags : UInt32)
  | clear

namespace StreamCall

/-- The packet that the call appends. -/
def packet? : StreamCall → Option Packet
  | nop words => some (.nop words)
  | setRegister offset value => some (.setRegisters offset [value])
  | setRegisters offset values => some (.setRegisters offset values)
  | dispatchDirect x y z initiator => some (.dispatch x y z initiator)
  | acquireMem flags => some (.acquire flags)
  | clear => none

/-- What the call does to a stream. -/
def edit (call : StreamCall) : CommandStream.Edit := fun s =>
  match call.packet? with
  | none => (.ok (), s.clear)
  | some p => s.append p

end StreamCall

/-- A stream in use and the packets that it should hold: those of the calls that succeeded since the
last `clear`. -/
structure StreamHistory where
  stream : CommandStream
  kept : List Packet := []

namespace StreamHistory

def step (h : StreamHistory) (call : StreamCall) : StreamHistory :=
  match call.edit h.stream with
  | (.error _, stream) => { h with stream }
  | (.ok _, stream) =>
    match call.packet? with
    | none => { stream }
    | some p => { stream, kept := h.kept ++ [p] }

def run (h : StreamHistory) (calls : List StreamCall) : StreamHistory := calls.foldl step h

/-- The stream holds the kept packets and no other words, and all of them are well formed. -/
structure Holds (capacity shBase : Nat) (h : StreamHistory) : Prop where
  capacity_eq : h.stream.capacity = capacity
  shBase_eq : h.stream.shBase = shBase
  words_eq : h.stream.words = h.kept.flatMap (Packet.image shBase)
  wellFormed : ∀ p ∈ h.kept, p.NamesRegister shBase ∧ p.length ≤ maxPacketWords

variable {capacity shBase : Nat} {h : StreamHistory}

theorem holds_new (capacity shBase : Nat) :
    Holds capacity shBase { stream := .new capacity shBase } where
  capacity_eq := Array.size_replicate
  shBase_eq := rfl
  words_eq := List.take_zero
  wellFormed := by simp

/-- Each call keeps the stream in step with the packets that were appended since the last clear. -/
theorem Holds.step (hholds : h.Holds capacity shBase) (call : StreamCall) :
    (h.step call).Holds capacity shBase := by
  obtain ⟨hcapacity, hbase, hwords, hwell⟩ := hholds
  unfold StreamHistory.step StreamCall.edit
  cases hpacket : call.packet? with
  | none => exact ⟨hcapacity, hbase, List.take_zero, by simp⟩
  | some p =>
    have houtcome := h.stream.append_outcome p
    simp only
    generalize h.stream.append p = result at houtcome
    cases houtcome with
    | appended hregister hlength _ hwords' hcapacity' hbase' =>
      refine ⟨hcapacity'.trans hcapacity, hbase'.trans hbase, ?_, ?_⟩
      · simp only [hwords', hwords, hbase, List.flatMap_append, List.flatMap_cons,
          List.flatMap_nil, List.append_nil]
      · intro q hq
        rw [hbase] at hregister
        rcases List.mem_append.1 hq with hq | hq
        · exact hwell q hq
        · rw [List.mem_singleton.1 hq]
          exact ⟨hregister, hlength⟩
    | badRegister => exact ⟨hcapacity, hbase, hwords, hwell⟩
    | tooLong => exact ⟨hcapacity, hbase, hwords, hwell⟩
    | noRoom => exact ⟨hcapacity, hbase, hwords, hwell⟩

/-- By induction on the calls, so does every run. -/
theorem Holds.run (hholds : h.Holds capacity shBase) (calls : List StreamCall) :
    (h.run calls).Holds capacity shBase := by
  induction calls generalizing h with
  | nil => exact hholds
  | cons call calls ih => exact ih (hholds.step call)

end StreamHistory

/-- The walk over well-formed packets meets their headers and nothing else. -/
theorem walk_flatMap_image {shBase : Nat} {packets : List Packet}
    (hwell : ∀ p ∈ packets, p.NamesRegister shBase ∧ p.length ≤ maxPacketWords) :
    PacketHeader.walk (packets.flatMap (Packet.image shBase)) =
      packets.filterMap Packet.header? := by
  induction packets with
  | nil => rw [List.flatMap_nil, PacketHeader.walk, List.filterMap_nil]
  | cons p ps ih =>
    obtain ⟨hregister, hlength⟩ := hwell p List.mem_cons_self
    rw [List.flatMap_cons, Packet.walk_image_append hregister hlength,
      ih fun q hq => hwell q (List.mem_cons_of_mem p hq), List.filterMap_cons]
    cases p.header? <;> rfl

/-- The counts in the headers add up to the words of the packets; an empty packet has neither. -/
theorem sum_count_filterMap_header (packets : List Packet) :
    ((packets.filterMap Packet.header?).map (·.count)).sum = (packets.map Packet.length).sum := by
  induction packets with
  | nil => rfl
  | cons p ps ih =>
    by_cases hzero : p.length = 0
    · rw [List.filterMap_cons_none (by rw [Packet.header?, if_pos hzero]), ih, List.map_cons,
        List.sum_cons, hzero, Nat.zero_add]
    · rw [List.filterMap_cons_some (by rw [Packet.header?, if_neg hzero]), List.map_cons,
        List.sum_cons, ih, List.map_cons, List.sum_cons]

/-- Whatever is called on a stream, in whatever order and with whatever arguments: its words are the
packets of the calls that succeeded since the last `clear`, one after the other, and its headers are
theirs. A call fails exactly for a bad register, an excessive length or want of room, and then
leaves length and words alone. -/
theorem StreamHistory.refines_packets (capacity shBase : Nat) (calls : List StreamCall) :
    let h := run { stream := .new capacity shBase } calls
    h.stream.words = h.kept.flatMap (Packet.image shBase) ∧
    h.stream.capacity = capacity ∧ h.stream.length + h.stream.remaining = capacity ∧
    h.stream.headers = h.kept.filterMap Packet.header? ∧
    (h.stream.headers.map (·.count)).sum = h.stream.length ∧
    ∀ call : StreamCall,
      ((∃ e, (call.edit h.stream).1 = .error e) ↔ ∃ p, call.packet? = some p ∧
        (¬p.NamesRegister shBase ∨ 16384 < p.length ∨ h.stream.remaining < p.length)) ∧
      ∀ e, (call.edit h.stream).1 = .error e →
        (call.edit h.stream).2.length = h.stream.length ∧
          (call.edit h.stream).2.words = h.stream.words := by
  intro h
  have hholds : h.Holds capacity shBase := (holds_new capacity shBase).run calls
  have hheaders : h.stream.headers = h.kept.filterMap Packet.header? := by
    rw [CommandStream.headers, hholds.words_eq, walk_flatMap_image hholds.wellFormed]
  refine ⟨hholds.words_eq, hholds.capacity_eq, ?_, hheaders, ?_, ?_⟩
  · rw [CommandStream.length_add_remaining, hholds.capacity_eq]
  · rw [hheaders, sum_count_filterMap_header, ← length_flatMap_image shBase, ← hholds.words_eq,
      CommandStream.length_words]
  · intro call
    cases hpacket : call.packet? with
    | none =>
      have hedit : call.edit h.stream = (.ok (), h.stream.clear) := by
        simp only [StreamCall.edit, hpacket]
      rw [hedit]
      constructor
      · simp
      · intro e he
        cases he
    | some p =>
      have hedit : call.edit h.stream = h.stream.append p := by
        simp only [StreamCall.edit, hpacket]
      rw [hedit]
      constructor
      · rw [CommandStream.append_error_iff, hholds.shBase_eq]
        simp only [Option.some.injEq, exists_eq_left']
        rfl
      · intro e he
        rw [CommandStream.append_error he]
        exact ⟨rfl, rfl⟩

end GpuControl
