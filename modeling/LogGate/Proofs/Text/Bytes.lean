import LogGate.Text.Utf8

/-!
# Bytes of texts put together

The bytes of one text behind another are its bytes behind the other's (`encode_append`).
-/

namespace LogGate.Utf8

/-- The bytes of an array from a place on, behind those already read. -/
theorem toList_loop_eq (bytes : ByteArray) (i : Nat) (r : List UInt8) :
    ByteArray.toList.loop bytes i r = r.reverse ++ bytes.data.toList.drop i := by
  fun_induction ByteArray.toList.loop bytes i r with
  | case1 i r hi ih =>
    have hlen : i < bytes.data.toList.length := by
      rw [Array.length_toList]; exact hi
    have hget : bytes.get! i = bytes.data.toList[i] := by
      show bytes.data[i]! = _
      rw [getElem!_pos bytes.data i hi, Array.getElem_toList]
    rw [ih, List.reverse_cons, List.append_assoc, List.drop_eq_getElem_cons hlen, hget]
    rfl
  | case2 i r hi =>
    have hlen : bytes.data.toList.length ≤ i := by
      rw [Array.length_toList]; exact Nat.le_of_not_lt hi
    rw [List.drop_eq_nil_of_le hlen, List.append_nil]

/-- The bytes of a text are those of its byte array. -/
theorem encode_eq (s : String) : encode s = s.toByteArray.data.toList :=
  toList_loop_eq s.toByteArray 0 []

/-- The bytes of one text behind another are its bytes behind the other's. -/
@[simp] theorem encode_append (s t : String) : encode (s ++ t) = encode s ++ encode t := by
  rw [encode_eq, encode_eq, encode_eq, String.toByteArray_append, ByteArray.data_append,
    Array.toList_append]

end LogGate.Utf8
