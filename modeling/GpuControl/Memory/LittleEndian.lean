namespace GpuControl.LittleEndian

/-- The low `count` bytes of `n`. -/
def encode : Nat → Nat → List UInt8
  | 0, _ => []
  | count + 1, n => UInt8.ofNat n :: encode count (n / 256)

/-- The number that the bytes spell. -/
def decode : List UInt8 → Nat
  | [] => 0
  | b :: bs => b.toNat + 256 * decode bs

@[simp] theorem length_encode (count n : Nat) : (encode count n).length = count := by
  induction count generalizing n with
  | zero => rfl
  | succ count ih => simp [encode, ih]

/-- How many numbers `count` bytes can spell. -/
def span : Nat → Nat
  | 0 => 1
  | count + 1 => 256 * span count

theorem decode_encode (count n : Nat) : decode (encode count n) = n % span count := by
  induction count generalizing n with
  | zero => rw [encode, decode, span, Nat.mod_one]
  | succ count ih =>
    have hlow : (UInt8.ofNat n).toNat = n % 256 := UInt8.toNat_ofNat'
    rw [encode, decode, ih, hlow, span, Nat.mod_mul]

def dword (w : UInt32) : List UInt8 := encode 4 w.toNat

def qword (w : UInt64) : List UInt8 := encode 8 w.toNat

/-- Words one after the other. -/
def dwords (words : List UInt32) : List UInt8 := words.flatMap dword

def toDword (bytes : List UInt8) : UInt32 := UInt32.ofNat (decode bytes)

def toQword (bytes : List UInt8) : UInt64 := UInt64.ofNat (decode bytes)

theorem toDword_dword (w : UInt32) : toDword (dword w) = w := by
  apply UInt32.toNat_inj.1
  have := w.toNat_lt
  simp only [toDword, dword, decode_encode, span, UInt32.toNat_ofNat']
  omega

end GpuControl.LittleEndian
