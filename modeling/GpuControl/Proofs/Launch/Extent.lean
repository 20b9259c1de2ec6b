import GpuControl.Proofs.Launch.Encode

namespace GpuControl

namespace CommandStream

/-- A packet short enough for any header is refused for its register or for want of room. The bytes
of a buffer are counted in a machine word, so a packet's end is a number of words that a machine
word holds. -/
theorem refused_append {s : CommandStream} {p : Packet} {e : DriverError}
    (hbytes : 4 * s.capacity < UInt64.size) (hlength : p.length ≤ maxPacketWords)
    (hrefused : (s.append p).1 = .error e) :
    (∃ offset values, p = .setRegisters offset values ∧
      registerIndex s.shBase offset = .error e ∧ e = .invalidRegister offset s.shBase) ∨
    (p.NamesRegister s.shBase ∧ s.capacity < s.length + p.length ∧
      e = .encodingOverflow (s.length + p.length) s.capacity) := by
  have houtcome := s.append_outcome p
  generalize s.append p = result at houtcome hrefused
  cases houtcome with
  | appended => cases hrefused
  | badRegister hp hregister =>
    cases hrefused
    subst hp
    exact .inl ⟨_, _, rfl, Packet.registerIndex_eq_error hregister, rfl⟩
  | tooLong _ hlong => exact absurd hlength (Nat.not_le.2 hlong)
  | noRoom hregister _ hroom =>
    cases hrefused
    have hsize : UInt64.size = 2 ^ 64 := rfl
    have hmax : maxPacketWords = 16384 := rfl
    have htotal := s.length_add_remaining
    have hend : saturatingAdd s.length p.length = s.length + p.length :=
      Nat.min_eq_left (by omega)
    rw [hend]
    exact .inr ⟨hregister, by omega, rfl⟩

end CommandStream

namespace LaunchDescriptor

variable {map : RegisterMap} {compute : ComputeLayout} {l : LaunchDescriptor}
  {s : CommandStream} {shBase : Nat}

/-- Words of an encoded launch; pointing it at its arguments takes four of them. -/
def extent (l : LaunchDescriptor) : Nat := if l.args.isSome then 38 else 34

/-- The packets of a launch take as many words together as its extent says. -/
theorem sum_length_packets (compute : ComputeLayout) (l : LaunchDescriptor) :
    ((l.packets compute).map Packet.length).sum = l.extent := by
  unfold packets argumentPackets extent
  cases l.args <;> rfl

theorem length_le_of_mem_packets {p : Packet} (hp : p ∈ l.packets compute) :
    p.length ≤ maxPacketWords := by
  have hmax : maxPacketWords = 16384 := rfl
  revert p
  unfold packets argumentPackets
  cases l.args <;> simp [hmax, Packet.length, alignmentNopWords, Dims.toList]

/-- The packets of a launch name registers exactly if those at which its writes start have
indices. -/
theorem packets_nameRegister_iff :
    (∀ p ∈ l.packets compute, p.NamesRegister shBase) ↔
      (∀ offset ∈ [compute.pgmLo, compute.pgmRsrc1, compute.numThreadX],
        ∃ index, registerIndex shBase offset = .ok index) ∧
      (l.args.isSome → ∃ index, registerIndex shBase compute.userData0 = .ok index) := by
  unfold packets argumentPackets
  cases l.args <;> simp [Packet.namesRegister_iff, and_assoc]

/-- A launch is encoded if it is valid, all it writes has a register and the stream has room for all
of it. -/
theorem encodeInto_ok_iff :
    (l.encodeInto map s).1 = .ok () ↔ l.validate = .ok () ∧
      (∀ p ∈ l.packets map.compute, p.NamesRegister s.shBase) ∧ l.extent ≤ s.remaining := by
  unfold encodeInto
  cases l.validate with
  | error e => simp
  | ok u =>
    rw [s.appendAll_ok_iff, sum_length_packets]
    constructor
    · rintro ⟨hwell, hroom⟩
      exact ⟨rfl, fun p hp => (hwell p hp).1, hroom⟩
    · rintro ⟨-, hnames, hroom⟩
      exact ⟨fun p hp => ⟨hnames p hp, length_le_of_mem_packets hp⟩, hroom⟩

/-- A launch that cannot be encoded is invalid, and the stream is as it was, or a packet is refused:
the stream holds the packets in front of it. -/
theorem encodeInto_error {e : DriverError} (he : (l.encodeInto map s).1 = .error e) :
    (l.validate = .error e ∧ (l.encodeInto map s).2 = s) ∨
    (l.validate = .ok () ∧ ∃ before p after, l.packets map.compute = before ++ p :: after ∧
      s.appendAll before = (.ok (), (l.encodeInto map s).2) ∧
      (l.encodeInto map s).2.append p = (.error e, (l.encodeInto map s).2)) := by
  unfold encodeInto at he ⊢
  cases hvalid : l.validate with
  | error e' =>
    rw [hvalid] at he
    cases he
    exact .inl ⟨rfl, rfl⟩
  | ok u =>
    rw [hvalid] at he
    have houtcome := s.appendAll_outcome (l.packets map.compute)
    simp only at he ⊢
    generalize s.appendAll (l.packets map.compute) = result at houtcome he
    cases houtcome with
    | appended => cases he
    | stopped hpackets hbefore hrefused =>
      cases he
      exact .inr ⟨trivial, _, _, _, hpackets, hbefore, hrefused⟩

/-- A launch is encoded exactly if its program is aligned, no count is zero, the registers at which
its writes start have indices in the stream, the one of the arguments only if there are any, and the
stream has room for all of it. What it appends are its packets, whatever the stream's capacity and
whatever was in it. A launch that fails leaves the packets in front of the first that is refused,
none if it is invalid, and the error is that packet's: its register has no index, or it would end
behind the stream's capacity. The hypothesis says only that the bytes of the stream's buffer can be
counted. -/
theorem encodeInto_exact (map : RegisterMap) (l : LaunchDescriptor)
    (hbytes : 4 * s.capacity < UInt64.size) :
    let compute := map.compute
    let needed := if l.args.isSome then 38 else 34
    let result := l.encodeInto map s
    (result.1 = .ok () ↔ l.program.toNat % 256 = 0 ∧
      (∀ n ∈ l.threads.toList ++ l.workgroups.toList, n ≠ 0) ∧
      (∀ offset ∈ [compute.pgmLo, compute.pgmRsrc1, compute.numThreadX],
        ∃ index, registerIndex s.shBase offset = .ok index) ∧
      (l.args.isSome → ∃ index, registerIndex s.shBase compute.userData0 = .ok index) ∧
      needed ≤ s.remaining) ∧
    (result.1 = .ok () → result.2.length = s.length + needed ∧
      result.2.words = s.words ++ (l.packets compute).flatMap (Packet.image s.shBase)) ∧
    ∀ e, result.1 = .error e →
      (l.validate = .error e ∧ result.2 = s) ∨
      (l.validate = .ok () ∧ ∃ before p after, l.packets compute = before ++ p :: after ∧
        s.appendAll before = (.ok (), result.2) ∧
        result.2.words = s.words ++ before.flatMap (Packet.image s.shBase) ∧
        result.2.append p = (.error e, result.2) ∧
        ((∃ offset values, p = .setRegisters offset values ∧
          registerIndex s.shBase offset = .error e ∧ e = .invalidRegister offset s.shBase) ∨
        (p.NamesRegister s.shBase ∧ s.capacity < result.2.length + p.length ∧
          e = .encodingOverflow (result.2.length + p.length) s.capacity))) := by
  intro compute needed result
  refine ⟨?_, ?_, ?_⟩
  · rw [encodeInto_ok_iff, validate_eq_ok_iff, packets_nameRegister_iff]
    simp only [and_assoc]
    rfl
  · intro hok
    obtain ⟨-, happend⟩ := encodeInto_ok (show result = (.ok (), result.2) from Prod.ext hok rfl)
    have hlength := CommandStream.length_appendAll happend
    rw [sum_length_packets] at hlength
    exact ⟨hlength, (CommandStream.appendAll_ok happend).1⟩
  · intro e he
    rcases encodeInto_error he with
      hinvalid | ⟨hvalid, before, p, after, hpackets, hbefore, hrefused⟩
    · exact .inl hinvalid
    · have hcapacity := CommandStream.capacity_appendAll hbefore
      obtain ⟨hwords, hbase, -⟩ := CommandStream.appendAll_ok hbefore
      have hmem : p ∈ l.packets map.compute := by simp [hpackets]
      have hwhy := CommandStream.refused_append (hcapacity.symm ▸ hbytes)
        (length_le_of_mem_packets hmem) (congrArg Prod.fst hrefused)
      rw [hbase, hcapacity] at hwhy
      exact .inr ⟨hvalid, before, p, after, hpackets, hbefore, hwords, hrefused, hwhy⟩

/-- Behind a pause of three words the sample launch would end one word behind the capacity of its
stream. Its packets up to the one that ends there are left. -/
theorem encodeInto_exact_sample :
    let s := ((CommandStream.new 40 0x2C00).append (.nop 3)).2
    let result := Dispatcher.sampleLaunch.encodeInto .gfx10 s
    4 * s.capacity < UInt64.size ∧ result.1 = .error (.encodingOverflow 41 40) ∧
    ∃ before p after, Dispatcher.sampleLaunch.packets {} = before ++ p :: after ∧
      result.2.words = s.words ++ before.flatMap (Packet.image 0x2C00) ∧
      result.2.length + p.length = 41 := by
  intro s result
  have hbytes : 4 * s.capacity < UInt64.size := by decide +kernel
  have he : result.1 = .error (.encodingOverflow 41 40) := by decide +kernel
  have hvalid : Dispatcher.sampleLaunch.validate = .ok () := by decide
  obtain ⟨-, -, hfailure⟩ := encodeInto_exact .gfx10 Dispatcher.sampleLaunch hbytes
  refine ⟨hbytes, he, ?_⟩
  rcases hfailure _ he with ⟨hinvalid, -⟩ | ⟨-, before, p, after, hpackets, -, hwords, -, hwhy⟩
  · cases hvalid.symm.trans hinvalid
  · rcases hwhy with ⟨_, _, -, -, hbad⟩ | ⟨-, -, hfull⟩
    · cases hbad
    · injection hfull with hend
      exact ⟨before, p, after, hpackets, hwords, hend.symm⟩

end LaunchDescriptor

end GpuControl
