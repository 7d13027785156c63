import SessionReplay.Script.Op

/-! Operations as bytes, both ways. A reader takes four bytes that select one of the five
operations, and then the fields of that operation; where bytes are missing it reads zeros. So there
is no byte string that it cannot read, and no list of operations that it reads from none. -/
namespace SessionReplay

section Numbers

theorem ofLittleEndian_lt (bytes : Bytes) : ofLittleEndian bytes < Nat.pow 256 bytes.length := by
  induction bytes with
  | nil => exact Nat.one_pos
  | cons byte rest ih =>
    have next : Nat.pow 256 (rest.length + 1) = 256 * Nat.pow 256 rest.length := Nat.mul_comm _ 256
    have low := byte.toNat_lt
    rw [ofLittleEndian, List.length_cons, next]
    omega

theorem ofLittleEndian_zeros (count : Nat) : ofLittleEndian (List.replicate count 0) = 0 := by
  induction count with
  | zero => rfl
  | succ count ih =>
    rw [List.replicate_succ, ofLittleEndian, ih]
    rfl

theorem ofLittleEndian_append_zeros (bytes : Bytes) (count : Nat) :
    ofLittleEndian (bytes ++ List.replicate count 0) = ofLittleEndian bytes := by
  induction bytes with
  | nil => exact ofLittleEndian_zeros count
  | cons byte rest ih => rw [List.cons_append, ofLittleEndian, ih, ofLittleEndian]

end Numbers

namespace ScriptOp

def variant : ScriptOp → Nat
  | connect => 0
  | message .. => 1
  | malformed _ => 2
  | heartbeat .. => 3
  | advance _ => 4

/-- How many bytes an operation takes: four that select it, and its fields. -/
def width : ScriptOp → Nat
  | connect => 4
  | message .. => 8
  | malformed _ => 5
  | heartbeat .. => 7
  | advance _ => 8

/-- The number in so many bytes from `start` on; bytes that are missing count as zero. -/
def numberAt (bytes : Bytes) (start count : Nat) : Nat :=
  ofLittleEndian ((bytes.drop start).take count)

/-- The operation that is described by the number in any bytes, given where they start and how many
they are. -/
def described (number : Nat → Nat → Nat) : ScriptOp :=
  match variantOf (number 0 4) with
  | 0 => connect
  | 1 =>
    message (.ofNat (number 4 1)) (.ofNat (number 5 1)) (UInt8.ofNat (number 6 1) % 2 == 1)
      (.ofNat (number 7 1))
  | 2 => malformed (.ofNat (number 4 1))
  | 3 => heartbeat (.ofNat (number 4 1)) (.ofNat (number 5 2))
  | _ => advance (.ofNat (number 4 4))

/-- Reads `count` operations and leaves the bytes after them. -/
def decodeAll : Nat → Bytes → List ScriptOp × Bytes
  | 0, bytes => ([], bytes)
  | count + 1, bytes =>
    let (op, rest) := decode bytes
    let (ops, left) := decodeAll count rest
    (op :: ops, left)

section Reading
variable (bytes : Bytes)

theorem decode_eq :
    decode bytes =
      (described (numberAt bytes), bytes.drop (described (numberAt bytes)).width) := by
  simp only [decode, described, numberAt, takeByte, takeNumber, List.drop_drop, List.drop_zero]
  generalize variantOf (ofLittleEndian (bytes.take 4)) = selected
  -- a case for each operation: its fields are taken from the places at which they are described
  rcases selected with _ | _ | _ | _ | _ <;> rfl

/-- The selector decides, and each of its values selects one of the five. -/
theorem variant_described :
    (described (numberAt bytes)).variant = variantOf (numberAt bytes 0 4) := by
  have small : numberAt bytes 0 4 < UInt32.size := by
    have length : (bytes.take 4).length ≤ 4 := List.length_take_le ..
    exact Nat.lt_of_lt_of_le (ofLittleEndian_lt _) (Nat.pow_le_pow_right (by decide) length)
  have five : variantOf (numberAt bytes 0 4) < 5 := by
    rw [variantOf, Nat.div_lt_iff_lt_mul (by decide)]
    omega
  rw [described]
  generalize variantOf (numberAt bytes 0 4) = selected at five
  match selected, five with
  | 0, _ | 1, _ | 2, _ | 3, _ | 4, _ => rfl

theorem numberAt_append_zeros (start count more : Nat) :
    numberAt (bytes ++ List.replicate more 0) start count = numberAt bytes start count := by
  rw [numberAt, numberAt, List.drop_append, List.take_append, List.drop_replicate, List.take_replicate,
    ofLittleEndian_append_zeros]

theorem decodeMany_eq (count : Nat) :
    (decodeMany count bytes).map Prod.fst = (decodeAll count bytes).1 ∧
      ((decodeMany count bytes).map Prod.snd).getLastD bytes.length =
        (decodeAll count bytes).2.length := by
  induction count generalizing bytes with
  | zero => exact ⟨rfl, rfl⟩
  | succ count ih =>
    obtain ⟨ops, left⟩ := ih (decode bytes).2
    constructor
    · exact congrArg ((decode bytes).1 :: ·) ops
    · exact (List.getLastD_cons ..).trans left

end Reading

section Writing

theorem takeNumber_littleEndian {width n : Nat} (fits : n < Nat.pow 256 width) (rest : Bytes) :
    takeNumber width (littleEndian width n ++ rest) = (n, rest) := by
  have length := length_littleEndian width n
  rw [takeNumber, List.take_left' length, List.drop_left' length, ofLittleEndian_littleEndian,
    Nat.mod_eq_of_lt fits]

theorem takeByte_cons (byte : UInt8) (rest : Bytes) : takeByte (byte :: rest) = (byte, rest) := by
  simp [takeByte, takeNumber, ofLittleEndian]

/-- The least selector of an operation selects it. -/
theorem variantOf_selectorOf (variant : Nat) : variantOf (selectorOf variant) = variant := by
  simp only [variantOf, selectorOf, UInt32.size]
  omega

theorem takeNumber_selector {variant : Nat} (known : variant < 5) (rest : Bytes) :
    takeNumber 4 (littleEndian 4 (selectorOf variant) ++ rest) = (selectorOf variant, rest) := by
  have fits : selectorOf variant < UInt32.size := by
    simp only [selectorOf, UInt32.size]
    omega
  exact takeNumber_littleEndian fits rest

/-- What is written is read, and nothing that comes after it is touched. -/
theorem decode_encode (op : ScriptOp) (trailing : Bytes) :
    decode (op.encode ++ trailing) = (op, trailing) := by
  cases op with
  | connect =>
    simp only [encode, decode, takeNumber_selector (show 0 < 5 by decide)]
    rfl
  | message owner connection resend fields =>
    simp only [encode, List.append_assoc, decode, takeNumber_selector (show 1 < 5 by decide),
      variantOf_selectorOf, List.cons_append, takeByte_cons]
    cases resend <;> rfl
  | malformed connection =>
    simp only [encode, List.append_assoc, decode, takeNumber_selector (show 2 < 5 by decide),
      variantOf_selectorOf, List.cons_append, takeByte_cons]
    rfl
  | heartbeat owner staleBy =>
    have stale := @takeNumber_littleEndian 2 staleBy.toNat staleBy.toNat_lt trailing
    simp only [encode, List.append_assoc, decode, takeNumber_selector (show 3 < 5 by decide),
      variantOf_selectorOf, List.cons_append, takeByte_cons, stale,
      UInt16.ofNat_toNat]
  | advance nanos =>
    have moved := @takeNumber_littleEndian 4 nanos.toNat nanos.toNat_lt trailing
    simp only [encode, List.append_assoc, decode, takeNumber_selector (show 4 < 5 by decide),
      variantOf_selectorOf, moved, UInt32.ofNat_toNat]

theorem decodeAll_encode (ops : List ScriptOp) (trailing : Bytes) :
    decodeAll ops.length (ops.flatMap encode ++ trailing) = (ops, trailing) := by
  induction ops with
  | nil => rfl
  | cons op rest ih =>
    rw [List.flatMap_cons, List.append_assoc, List.length_cons, decodeAll, decode_encode]
    simp only [ih]

end Writing

/-- Every list of operations is read from some bytes, which are used up; what comes after them is
left as it is. And of any bytes an operation is read: the one that the selector selects, from as
many bytes as it takes or as there are, with zeros in the place of those that are missing. -/
theorem every_script_decodes :
    (∀ ops : List ScriptOp, ∃ bytes, decodeAll ops.length bytes = (ops, []) ∧
      ∀ trailing, decodeAll ops.length (bytes ++ trailing) = (ops, trailing) ∧
        (decodeMany ops.length (bytes ++ trailing)).map Prod.fst = ops) ∧
    ∀ bytes,
      let (op, rest) := decode bytes
      op.variant = ofLittleEndian (bytes.take 4) * 5 / UInt32.size ∧
        rest <:+ bytes ∧ bytes.length = min bytes.length op.width + rest.length ∧
        ∀ missing, (decode (bytes ++ List.replicate missing 0)).1 = op := by
  constructor
  · intro ops
    have read := decodeAll_encode ops
    refine ⟨ops.flatMap encode, ?_, fun trailing => ⟨read trailing, ?_⟩⟩
    · simpa only [List.append_nil] using read []
    · rw [(decodeMany_eq _ _).1, read]
  · intro bytes
    rw [decode_eq]
    refine ⟨variant_described bytes, List.drop_suffix .., ?_, fun missing => ?_⟩
    · rw [List.length_drop]
      omega
    · rw [decode_eq]
      have same : numberAt (bytes ++ List.replicate missing 0) = numberAt bytes :=
        funext fun start => funext fun count => numberAt_append_zeros bytes start count missing
      rw [same]

end ScriptOp
end SessionReplay
