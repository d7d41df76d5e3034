import DidRegistry.Ledger.CallData
import DidRegistry.Proofs.Ledger.Address
import Mathlib.Algebra.Group.Nat.Defs

/-!
# Call data and their payloads

Call data hold their payload and nothing else that could be read in its place.  The length of a text takes
32 bytes, so that no payload of 2^256 bytes or more is read back; even then no two payloads have the same
data, since the text behind the length has a length of its own.

## Results

* `Sha2.bigEndian_toBytes` — the lowest bytes of a number stand for its lowest digits.
* `CallData.encode_isOk_iff` — which payloads have call data.
* `CallData.decode_encode` — **a payload is read back from its call data**.
* `CallData.encode_inj` — **payloads with the same call data are the same**.
-/

set_option autoImplicit false

namespace DidRegistry

namespace Sha2

theorem length_toBytes (count n : Nat) : (toBytes count n).length = count := by
  induction count generalizing n with
  | zero => rfl
  | succ count ih => rw [toBytes, List.length_append, ih]; rfl

/-- The lowest bytes of a number stand for its lowest digits to the base 256. -/
theorem bigEndian_toBytes (count n : Nat) : bigEndian (toBytes count n) = n % 256 ^ count := by
  induction count generalizing n with
  | zero => simp [toBytes, bigEndian, Nat.mod_one]
  | succ count ih =>
    have hlast : bigEndian (toBytes (count + 1) n) =
        bigEndian (toBytes count (n / 256)) * 256 + (UInt8.ofNat (n % 256)).toNat := by
      simp [toBytes, bigEndian]
    rw [hlast, ih, Text.Utf8.toNat_ofNat_of_lt (by omega), Nat.pow_succ', Nat.mod_mul, Nat.mul_comm]
    omega

end Sha2

namespace CallData

theorem length_selector : selector.length = 4 := by
  rw [selector, List.length_take, Keccak.length_hash]
  rfl

/-- Call data are made of any text that is not empty. -/
theorem encode_isOk_iff {payload : List UInt8} :
    (∃ data, encode payload = .ok data) ↔
      payload ≠ [] ∧ (Text.Utf8.decode payload).isSome := by
  unfold encode
  split
  · rename_i he
    have : payload = [] := by simpa using he
    simp [this]
  · rename_i he
    have hn : payload ≠ [] := by simpa using he
    split
    · rename_i hd
      rw [Option.isNone_iff_eq_none] at hd
      simp [hd]
    · rename_i hd
      rw [Option.isNone_iff_eq_none] at hd
      simp [hn, Option.isSome_iff_ne_none, hd]

/-! ## Reading back -/

theorem length_word (n : Nat) : (word n).length = 32 := Sha2.length_toBytes 32 n

theorem readWord?_word (n : Nat) (r : List UInt8) :
    readWord? (word n ++ r) = some (n % 256 ^ 32, r) := by
  unfold readWord?
  rw [if_neg (by rw [List.length_append, length_word]; omega), List.take_left' (length_word n),
    List.drop_left' (length_word n), word, Sha2.bigEndian_toBytes]

theorem encode_eq_ok {payload : List UInt8} {data : String} (h : encode payload = .ok data) :
    (Text.Utf8.decode payload).isNone = false ∧
      data = "0x" ++ String.ofList (Text.Hex.encode (bytes payload)) := by
  unfold encode at h
  split at h
  · cases h
  · split at h
    · cases h
    · rename_i hu
      exact ⟨Bool.eq_false_iff.mpr hu, (Except.ok.inj h).symm⟩

theorem readText?_payload {payload : List UInt8} (hlen : payload.length < 256 ^ 32)
    (hu : (Text.Utf8.decode payload).isNone = false) :
    readText? (word payload.length ++ (payload ++ List.replicate (gap payload.length) 0x00)) =
      some payload := by
  have htotal : (payload ++ List.replicate (gap payload.length) 0x00).length =
      payload.length + gap payload.length := by
    rw [List.length_append, List.length_replicate]
  have hzeros : ((List.replicate (gap payload.length) (0x00 : UInt8)).any (· != 0x00)) = false := by
    simp
  unfold readText?
  rw [readWord?_word, Nat.mod_eq_of_lt hlen]
  simp only [Option.bind_some, htotal, Nat.lt_irrefl, if_false, List.take_of_length_le (Nat.le_of_eq htotal),
    List.drop_left, hzeros, List.take_left, hu, Bool.false_eq_true]

theorem readArguments?_payload {payload : List UInt8} (hlen : payload.length < 256 ^ 32)
    (hu : (Text.Utf8.decode payload).isNone = false) :
    readArguments? (word 32 ++ (word payload.length ++
      (payload ++ List.replicate (gap payload.length) 0x00))) = some payload := by
  unfold readArguments?
  rw [readWord?_word, Nat.mod_eq_of_lt (by decide)]
  simp only [Option.bind_some]
  rw [if_neg (by simp only [List.length_append, length_word]; omega), List.drop_left' (length_word 32)]
  exact readText?_payload hlen hu

theorem dropMark_mark (digits : List Char) :
    dropMark (Text.ofString ("0x" ++ String.ofList digits)).chars = digits := by
  simp only [Text.ofString, Text.chars_ofChars, String.toList_append, String.toList_ofList]
  rfl

theorem bytes_eq (payload : List UInt8) : bytes payload = selector ++ (word 32 ++ (word payload.length ++
    (payload ++ List.replicate (gap payload.length) 0x00))) := by
  simp only [bytes, List.append_assoc]

theorem decode_digits {payload : List UInt8} {data : Text}
    (hdata : dropMark data.chars = Text.Hex.encode (bytes payload)) (hlen : payload.length < 256 ^ 32)
    (hu : (Text.Utf8.decode payload).isNone = false) : decode data = .ok payload := by
  have hselector : (bytes payload).take 4 = selector := by
    rw [bytes_eq, List.take_left' length_selector]
  unfold decode
  rw [hdata, Text.Hex.decode_encode]
  -- the guard is rewritten as a whole, so that nothing has to compute the selector
  show (if (bytes payload).take 4 ≠ selector then _ else _) = _
  rw [if_neg (not_not_intro hselector), bytes_eq, List.drop_left' length_selector,
    readArguments?_payload hlen hu]

/-- **A payload is read back from its call data.** -/
theorem decode_encode {payload : List UInt8} {data : String} (h : encode payload = .ok data)
    (hlen : payload.length < 256 ^ 32) : decode data = .ok payload := by
  obtain ⟨hu, rfl⟩ := encode_eq_ok h
  exact decode_digits (dropMark_mark _) hlen hu

/-- **Payloads with the same call data are the same**, however long they are. -/
theorem encode_inj {p q : List UInt8} {data : String} (hp : encode p = .ok data)
    (hq : encode q = .ok data) : p = q := by
  -- the digits give the bytes, and these the lengths and the texts behind them
  have hbytes : bytes p = bytes q := by
    have he := (encode_eq_ok hp).2.symm.trans (encode_eq_ok hq).2
    have hl := congrArg String.toList he
    simp only [String.toList_append, String.toList_ofList] at hl
    have hd := congrArg Text.Hex.decode (List.append_cancel_left hl)
    rw [Text.Hex.decode_encode, Text.Hex.decode_encode] at hd
    exact Option.some.inj hd
  rw [bytes_eq, bytes_eq] at hbytes
  have hrest := List.append_cancel_left (List.append_cancel_left hbytes)
  obtain ⟨hlength, htext⟩ := List.append_inj hrest (by rw [length_word, length_word])
  have hmod : p.length % 256 ^ 32 = q.length % 256 ^ 32 := by
    rw [← Sha2.bigEndian_toBytes, ← Sha2.bigEndian_toBytes]
    exact congrArg Sha2.bigEndian hlength
  have htotal := congrArg List.length htext
  simp only [List.length_append, List.length_replicate, gap] at htotal
  have hsame : p.length = q.length := by omega
  exact (List.append_inj htext hsame).1

end CallData

end DidRegistry
