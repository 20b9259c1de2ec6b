import GpuControl.Memory.Store

namespace GpuControl

namespace LittleEndian

@[simp] theorem length_dword (w : UInt32) : (dword w).length = 4 := length_encode 4 w.toNat

/-- Each dword takes four bytes. -/
@[simp] theorem length_dwords (words : List UInt32) :
    (dwords words).length = 4 * words.length := by
  induction words with
  | nil => rfl
  | cons w ws ih =>
    change (dword w ++ dwords ws).length = 4 * (ws.length + 1)
    rw [List.length_append, length_dword, ih]
    omega

theorem length_flatMap_encode (width : Nat) (values : List Nat) :
    (values.flatMap (encode width)).length = values.length * width := by
  induction values with
  | nil => exact (Nat.zero_mul width).symm
  | cons n ns ih =>
    rw [List.flatMap_cons, List.length_append, length_encode, ih, List.length_cons, Nat.succ_mul,
      Nat.add_comm]

theorem dwords_append (first second : List UInt32) :
    dwords (first ++ second) = dwords first ++ dwords second := List.flatMap_append

/-- A byte list of whole words is cut between words. -/
theorem take_dwords (words : List UInt32) (count : Nat) :
    (dwords words).take (4 * count) = dwords (words.take count) := by
  conv => lhs; rw [← List.take_append_drop count words, dwords_append]
  by_cases hcount : count ≤ words.length
  · apply List.take_left'
    simp [hcount]
  · rw [List.drop_eq_nil_of_le (by omega), List.take_of_length_le]
    · exact List.append_nil _
    · simp only [List.length_append, length_dwords, List.length_take, List.length_nil]
      omega

/-- Cutting bytes behind whole dwords is cutting dwords. -/
theorem drop_dwords (words : List UInt32) (count : Nat) :
    (dwords words).drop (4 * count) = dwords (words.drop count) := by
  have hsplit : dwords (words.take count) ++ dwords (words.drop count) = dwords words := by
    rw [← dwords_append, List.take_append_drop]
  rw [← take_dwords] at hsplit
  exact (List.append_cancel_left ((List.take_append_drop _ _).trans hsplit.symm))

/-- Each word is cut out where it stands. -/
theorem word_of_dwords {words : List UInt32} {i : Nat} (hi : i < words.length) :
    ((dwords words).drop (4 * i)).take 4 = dword words[i] := by
  have hword : (words.drop i).take 1 = [words[i]] := by
    rw [List.drop_eq_getElem_cons hi]
    rfl
  calc ((dwords words).drop (4 * i)).take (4 * 1)
      = dwords [words[i]] := by rw [drop_dwords, take_dwords, hword]
    _ = dword words[i] := List.append_nil _

/-- Bytes are the encoding of the number that they decode to. -/
theorem encode_decode (bytes : List UInt8) : encode bytes.length (decode bytes) = bytes := by
  induction bytes with
  | nil => rfl
  | cons b bs ih =>
    have hb := b.toNat_lt
    have hlow : UInt8.ofNat (b.toNat + 256 * decode bs) = b := by
      apply UInt8.toNat_inj.1
      rw [UInt8.toNat_ofNat']
      omega
    have hhigh : (b.toNat + 256 * decode bs) / 256 = decode bs := by omega
    rw [List.length_cons, decode, encode, hlow, hhigh, ih]

theorem decode_lt_span (bytes : List UInt8) : decode bytes < span bytes.length := by
  induction bytes with
  | nil => exact Nat.zero_lt_one
  | cons b bs ih =>
    have hb := b.toNat_lt
    rw [decode, List.length_cons, span]
    omega

/-- Only the low bytes of a number count. -/
theorem encode_mod_span (count n : Nat) : encode count (n % span count) = encode count n := by
  have hencode := encode_decode (encode count n)
  rwa [length_encode, decode_encode] at hencode

/-- A wide number is encoded as two narrower ones, the low part first. -/
theorem encode_add (first second n : Nat) :
    encode (first + second) n = encode first n ++ encode second (n / span first) := by
  induction first generalizing n with
  | zero => rw [Nat.zero_add, span, Nat.div_one, encode, List.nil_append]
  | succ first ih =>
    rw [Nat.succ_add, encode, ih, encode, span, Nat.div_div_eq_div_mul, List.cons_append]

/-- A qword is its low dword and then its high one. -/
theorem qword_eq (w : UInt64) : qword w = dword w.toUInt32 ++ dword (w >>> 32).toUInt32 := by
  have hhigh : w.toNat >>> (32 % 64) = w.toNat / 2 ^ 32 := Nat.shiftRight_eq_div_pow _ _
  rw [qword, encode_add 4 4, dword, dword, UInt64.toNat_toUInt32, UInt64.toNat_toUInt32,
    UInt64.toNat_shiftRight]
  change _ = encode 4 (w.toNat % span 4) ++ encode 4 ((w.toNat >>> (32 % 64)) % span 4)
  rw [encode_mod_span, encode_mod_span, hhigh]
  rfl

@[simp] theorem length_qword (w : UInt64) : (qword w).length = 8 := length_encode 8 w.toNat

/-- Four bytes are those of the word that they spell. -/
theorem dword_toDword {bytes : List UInt8} (hlength : bytes.length = 4) :
    dword (toDword bytes) = bytes := by
  have hlt : decode bytes < 2 ^ 32 := by
    have hspan := decode_lt_span bytes
    rw [hlength] at hspan
    exact hspan
  rw [dword, toDword, UInt32.toNat_ofNat', Nat.mod_eq_of_lt hlt, ← hlength, encode_decode]

end LittleEndian

namespace Cell

/-- The byte is one of the `len` bytes from `start` on. -/
def Within (c start : Cell) (len : Nat) : Prop :=
  c.region = start.region ∧ start.offset ≤ c.offset ∧ c.offset < start.offset + len

@[simp] theorem advance_advance (c : Cell) (i j : Nat) :
    (c.advance i).advance j = c.advance (i + j) := by
  simp only [advance, Nat.add_assoc]

/-- The bytes within a range are those that an index below its length leads to. -/
theorem within_iff {c start : Cell} {len : Nat} :
    c.Within start len ↔ ∃ i < len, c = start.advance i := by
  constructor
  · intro ⟨hregion, hlo, hhi⟩
    refine ⟨c.offset - start.offset, by omega, ?_⟩
    obtain ⟨region, offset⟩ := c
    simp only [advance, Cell.mk.injEq]
    exact ⟨hregion, by simp only at hlo; omega⟩
  · rintro ⟨i, hi, rfl⟩
    exact ⟨rfl, by simp only [advance]; omega, by simp only [advance]; omega⟩

theorem within_advance_iff {start : Cell} {i j len : Nat} :
    (start.advance i).Within (start.advance j) len ↔ j ≤ i ∧ i < j + len := by
  simp only [Within, advance, true_and]
  omega

end Cell

namespace Memory

/-- A store leaves every byte outside its range alone. -/
theorem byte_store_of_not_within {c d : Cell} {bytes : List UInt8} (m : Memory)
    (hout : ¬d.Within c bytes.length) : (m.store c bytes).byte d = m.byte d := by
  rw [byte_store]
  exact if_neg hout

/-- Where two memories hold the same byte, they do so after the same store. -/
theorem byte_store_congr {m m' : Memory} {c d : Cell} (bytes : List UInt8)
    (hbyte : m'.byte d = m.byte d) : (m'.store c bytes).byte d = (m.store c bytes).byte d := by
  rw [byte_store, byte_store, hbyte]

/-- Inside the range, the byte that was stored is found. -/
theorem byte_store_advance (m : Memory) (c : Cell) (bytes : List UInt8) {i : Nat}
    (hi : i < bytes.length) : (m.store c bytes).byte (c.advance i) = bytes[i] := by
  have hin : (c.advance i).Within c bytes.length := Cell.within_iff.2 ⟨i, hi, rfl⟩
  rw [byte_store]
  refine (if_pos hin).trans ?_
  simp [Cell.advance, List.getD_eq_getElem?_getD, hi]

/-- A load sees nothing but the bytes that it covers. -/
theorem load_congr {m m' : Memory} {c : Cell} {count : Nat}
    (hbytes : ∀ i < count, m'.byte (c.advance i) = m.byte (c.advance i)) :
    m'.load c count = m.load c count :=
  List.map_congr_left fun i hi => hbytes i (List.mem_range.1 hi)

theorem loadDword_congr {m m' : Memory} {c : Cell}
    (hbytes : ∀ i < 4, m'.byte (c.advance i) = m.byte (c.advance i)) :
    m'.loadDword c = m.loadDword c :=
  congrArg LittleEndian.toDword (load_congr hbytes)

theorem loadQword_congr {m m' : Memory} {c : Cell}
    (hbytes : ∀ i < 8, m'.byte (c.advance i) = m.byte (c.advance i)) :
    m'.loadQword c = m.loadQword c :=
  congrArg LittleEndian.toQword (load_congr hbytes)

/-- What was stored is loaded back. -/
theorem load_store (m : Memory) (c : Cell) (bytes : List UInt8) :
    (m.store c bytes).load c bytes.length = bytes := by
  apply List.ext_getElem
  · exact length_load _ _ _
  · intro i _ hi
    simp only [load, List.getElem_map, List.getElem_range, byte_store_advance m c bytes hi]

/-- A dword is made of the four bytes that stand in memory. -/
theorem dword_loadDword (m : Memory) (c : Cell) :
    LittleEndian.dword (m.loadDword c) = m.load c 4 :=
  LittleEndian.dword_toDword (length_load m c 4)

/-- So is a dword. -/
@[simp] theorem loadDword_storeDword (m : Memory) (c : Cell) (w : UInt32) :
    (m.storeDword c w).loadDword c = w := by
  have hload := load_store m c (LittleEndian.dword w)
  rw [LittleEndian.length_dword] at hload
  rw [loadDword, storeDword, hload, LittleEndian.toDword_dword]

/-- Storing a dword leaves all but its four bytes alone. -/
theorem byte_storeDword_of_not_within {c d : Cell} (m : Memory) (w : UInt32)
    (hout : ¬d.Within c 4) : (m.storeDword c w).byte d = m.byte d :=
  byte_store_of_not_within m (by simpa using hout)

/-- A load from the middle of a range is a part of the load of the whole. -/
theorem load_advance (m : Memory) (c : Cell) {first count total : Nat}
    (hfits : first + count ≤ total) :
    m.load (c.advance first) count = ((m.load c total).drop first).take count := by
  apply List.ext_getElem
  · simp only [length_load, List.length_take, List.length_drop]
    omega
  · intro i _ _
    simp only [load, List.getElem_map, List.getElem_range, List.getElem_take, List.getElem_drop,
      Cell.advance_advance]

/-- Of words stored one after the other, each is loaded from its own place. -/
theorem loadDword_store_dwords (m : Memory) (c : Cell) (words : List UInt32) {i : Nat}
    (hi : i < words.length) :
    (m.store c (LittleEndian.dwords words)).loadDword (c.advance (4 * i)) = words[i] := by
  have hfits : 4 * i + 4 ≤ (LittleEndian.dwords words).length := by
    rw [LittleEndian.length_dwords]
    omega
  have hload : (m.store c (LittleEndian.dwords words)).load (c.advance (4 * i)) 4 =
      LittleEndian.dword words[i] := by
    rw [load_advance _ c hfits, load_store, LittleEndian.word_of_dwords hi]
  rw [loadDword, hload, LittleEndian.toDword_dword]

end Memory

end GpuControl
