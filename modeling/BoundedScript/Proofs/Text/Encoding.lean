import BoundedScript.Text.Utf8

set_option autoImplicit false

namespace BoundedScript.Text

def encoded (cs : List Char) : Bytes :=
  cs.flatMap String.utf8EncodeChar

@[simp] theorem encoded_nil : encoded [] = [] := rfl

@[simp] theorem encoded_append (cs ds : List Char) : encoded (cs ++ ds) = encoded cs ++ encoded ds :=
  List.flatMap_append

theorem encoded_cons (c : Char) (cs : List Char) :
    encoded (c :: cs) = String.utf8EncodeChar c ++ encoded cs :=
  List.flatMap_cons

theorem length_le_flatMap {α β : Type} {f : α → List β} (some : ∀ a, f a ≠ []) (cs : List α) :
    cs.length ≤ (cs.flatMap f).length := by
  induction cs with
  | nil => exact Nat.le_refl _
  | cons c rest ih =>
    have here := List.length_pos_iff.mpr (some c)
    rw [List.flatMap_cons, List.length_append, List.length_cons]
    omega

theorem toList_loop (bytes : ByteArray) (i : Nat) (read : Bytes) :
    ByteArray.toList.loop bytes i read = read.reverse ++ bytes.data.toList.drop i := by
  rw [ByteArray.toList.loop]
  split
  next inside =>
    have here : i < bytes.data.toList.length := inside
    have byte : bytes.get! i = bytes.data.toList[i] := getElem!_pos bytes.data i inside
    rw [toList_loop bytes (i + 1), List.drop_eq_getElem_cons here, byte, List.reverse_cons,
      List.append_assoc]
    rfl
  next outside =>
    have past : bytes.data.toList.length ≤ i := Nat.le_of_not_lt outside
    rw [List.drop_eq_nil_of_le past, List.append_nil]
termination_by bytes.size - i

theorem toList_eq (bytes : ByteArray) : bytes.toList = bytes.data.toList := by
  rw [ByteArray.toList, toList_loop]
  rfl

theorem bytesOf_ofList (cs : List Char) : bytesOf (String.ofList cs) = encoded cs := by
  rw [bytesOf, String.toUTF8_eq_toByteArray, String.toByteArray_ofList, toList_eq, List.utf8Encode,
    List.toList_data_toByteArray]
  rfl

theorem bytesOf_eq (s : String) : bytesOf s = encoded s.toList := by
  rw [← bytesOf_ofList, String.ofList_toList]

theorem bytesOf_length (s : String) : (bytesOf s).length = s.utf8ByteSize := by
  rw [bytesOf, toList_eq, String.toUTF8_eq_toByteArray, ← String.size_toByteArray]
  rfl

theorem encodeChar_ascii {c : Char} (ascii : c.toNat < 128) :
    String.utf8EncodeChar c = [UInt8.ofNat c.toNat] := by
  rw [String.utf8EncodeChar]
  exact if_pos (Nat.le_of_lt_succ ascii)

@[simp] theorem encoded_ascii {c : Char} (ascii : c.toNat < 128) (cs : List Char) :
    encoded (c :: cs) = UInt8.ofNat c.toNat :: encoded cs := by
  rw [encoded_cons, encodeChar_ascii ascii]
  rfl

theorem le_ofNat {n : Nat} (high : 0x80 ≤ n % 256) : 0x80 ≤ UInt8.ofNat n := by
  rw [UInt8.le_iff_toNat_le, UInt8.toNat_ofNat']
  exact high

theorem le_encodeChar {c : Char} (foreign : 128 ≤ c.toNat) : ∀ b ∈ String.utf8EncodeChar c, 0x80 ≤ b := by
  have large : ¬ c.val.toNat ≤ 0x7f := Nat.not_le.mpr foreign
  rw [String.utf8EncodeChar, if_neg large]
  split
  · simp only [List.forall_mem_cons]
    exact ⟨le_ofNat (by omega), le_ofNat (by omega), by simp⟩
  · split
    · simp only [List.forall_mem_cons]
      exact ⟨le_ofNat (by omega), le_ofNat (by omega), le_ofNat (by omega), by simp⟩
    · simp only [List.forall_mem_cons]
      exact ⟨le_ofNat (by omega), le_ofNat (by omega), le_ofNat (by omega), le_ofNat (by omega), by simp⟩

theorem fromUTF8?_encoded (s : String) : String.fromUTF8? (encoded s.toList).toByteArray = some s := by
  have bytes : (encoded s.toList).toByteArray = s.toByteArray := String.utf8Encode_toList
  rw [bytes, String.fromUTF8?, dif_pos s.isValidUTF8]
  rfl

end BoundedScript.Text
