import DidRegistry.Proofs.Ledger.CallData
import DidRegistry.Proofs.Text.Utf8

/-!
# The layout of call data

Call data are the selector of the function and one text as the contract takes it: the distance of the text
from the start of the arguments, its length and its bytes, filled up with zeros.

* `CallData.IsLaidOut` — the layout, said field by field and without the functions that write it.

## Results

* `Hex.mem_encode` — digits are written in lower case.
* `CallData.encode_laidOut` — **exactly the payloads that are UTF-8 and not empty have call data**; these
  have the layout and are read back, and data that name another function are a value error.
-/

set_option autoImplicit false

namespace DidRegistry

namespace Text.Hex

/-- The digits that are written. -/
def lowerDigits : List Char := "0123456789abcdef".toList

theorem hexDigit_mem : ∀ n, n < 16 → hexDigit n ∈ lowerDigits := by decide

/-- Digits are written in lower case. -/
theorem mem_encode {bytes : List UInt8} {c : Char} (h : c ∈ encode bytes) : c ∈ lowerDigits := by
  obtain ⟨b, -, hc⟩ := List.mem_flatMap.mp h
  have hb := b.toNat_lt
  simp only [encodeByte, List.mem_cons, List.not_mem_nil, or_false] at hc
  rcases hc with rfl | rfl
  · exact hexDigit_mem _ (by omega)
  · exact hexDigit_mem _ (by omega)

end Text.Hex

namespace CallData

/-- The call data of a payload, field by field. -/
structure IsLaidOut (payload : List UInt8) (data : String) : Prop where
  /-- The fields between which the data are divided, and the digits that the data are written in. -/
  fields : ∃ distance size zeros : List UInt8,
    data = "0x" ++ String.ofList (Text.Hex.encode (selector ++ distance ++ size ++ payload ++ zeros)) ∧
      (distance.length = 32 ∧ Sha2.bigEndian distance = 32) ∧
      (size.length = 32 ∧ Sha2.bigEndian size = payload.length) ∧
      (∀ b ∈ zeros, b = 0x00) ∧ zeros.length < 32 ∧ (payload.length + zeros.length) % 32 = 0
  /-- The selector takes four bytes. -/
  selector : selector.length = 4
  /-- All digits are in lower case. -/
  lower : ∀ c ∈ data.toList.drop 2, c ∈ Text.Hex.lowerDigits

theorem bigEndian_word {n : Nat} (h : n < 2 ^ 256) : Sha2.bigEndian (word n) = n := by
  rw [word, Sha2.bigEndian_toBytes, Nat.mod_eq_of_lt (by omega)]

theorem gap_fills (n : Nat) : gap n < 32 ∧ (n + gap n) % 32 = 0 := by
  unfold gap
  omega

theorem digits_afterMark (digits : List Char) : ("0x" ++ String.ofList digits).toList.drop 2 = digits := by
  rw [String.toList_append, String.toList_ofList (l := digits)]
  rfl

theorem isLaidOut_encode {payload : List UInt8} {data : String} (h : encode payload = .ok data)
    (hlen : payload.length < 2 ^ 256) : IsLaidOut payload data := by
  obtain ⟨-, rfl⟩ := encode_eq_ok h
  refine ⟨⟨word 32, word payload.length, List.replicate (gap payload.length) 0x00, rfl,
    ⟨length_word 32, bigEndian_word (n := 32) (by decide)⟩, ⟨length_word _, bigEndian_word hlen⟩,
    fun b hb => List.eq_of_mem_replicate hb, ?_, ?_⟩, length_selector, fun c hc => ?_⟩
  · rw [List.length_replicate]
    exact (gap_fills payload.length).1
  · rw [List.length_replicate]
    exact (gap_fills payload.length).2
  · rw [digits_afterMark] at hc
    exact Text.Hex.mem_encode hc

theorem decode_otherFunction {data : Text} {bytes : List UInt8}
    (hd : Text.Hex.decode (dropMark data.chars) = some bytes) (hs : bytes.take 4 ≠ selector) :
    ∃ e, decode data = .error e ∧ e.report.kind = .value := by
  refine ⟨.otherFunction (bytes.take 4), ?_, rfl⟩
  unfold decode
  rw [hd]
  exact if_pos hs

/-- **Exactly the payloads that are UTF-8 and not empty have call data.**  These have the layout and give the
payload back, for every payload whose length fits into the 32 bytes that it takes; and data whose first
four bytes are not the selector are refused with a value error. -/
theorem encode_laidOut (payload : List UInt8) :
    ((∃ data, encode payload = .ok data) ↔ payload ≠ [] ∧ payload.toByteArray.IsValidUTF8) ∧
      (∀ data, encode payload = .ok data → payload.length < 2 ^ 256 →
        IsLaidOut payload data ∧ decode data = .ok payload) ∧
      ∀ (data : Text) (bytes : List UInt8), Text.Hex.decode (dropMark data.chars) = some bytes →
        bytes.take 4 ≠ selector → ∃ e, decode data = .error e ∧ e.report.kind = .value := by
  refine ⟨?_, fun data h hlen => ⟨isLaidOut_encode h hlen, ?_⟩, fun data bytes => decode_otherFunction⟩
  · rw [encode_isOk_iff, Text.Utf8.isSome_decode_iff]
  · exact decode_encode h (by omega)

theorem encode_laidOut_braces :
    ([0x7b, 0x7d] : List UInt8) ≠ [] ∧ ([0x7b, 0x7d] : List UInt8).length < 2 ^ 256 ∧
      ∃ data, encode [0x7b, 0x7d] = .ok data ∧ IsLaidOut [0x7b, 0x7d] data ∧
        decode data = .ok [0x7b, 0x7d] := by
  have hvalid : ([0x7b, 0x7d] : List UInt8).toByteArray.IsValidUTF8 :=
    Text.Utf8.isSome_decode_iff.mp (by decide)
  obtain ⟨data, h⟩ := (encode_laidOut [0x7b, 0x7d]).1.mpr ⟨by decide, hvalid⟩
  exact ⟨by decide, by decide, data, h, (encode_laidOut [0x7b, 0x7d]).2.1 data h (by decide)⟩

end CallData

end DidRegistry
