import Rematch.Encoded
import Rematch.Pattern.Error

/-!
# Offsets

The table of an encoded text holds the offset of every position, and the bytes between the offsets of
two positions are those of the characters between them.
-/

namespace Rematch

theorem utf8_eq_utf8Encode (text : List Char) : utf8 text = text.utf8Encode := by
  rw [utf8, String.toUTF8_eq_toByteArray, String.toByteArray_ofList]

theorem utf8_append (text rest : List Char) : utf8 (text ++ rest) = utf8 text ++ utf8 rest := by
  simp only [utf8_eq_utf8Encode, List.utf8Encode_append]

theorem size_utf8 (text : List Char) : (utf8 text).size = byteLength text := by
  rw [utf8_eq_utf8Encode]
  induction text with
  | nil => rfl
  | cons c text ih =>
      rw [List.utf8Encode_cons, ByteArray.size_append, ih, List.utf8Encode_singleton,
        List.size_toByteArray, String.length_utf8EncodeChar, byteLength_cons]

theorem extract_middle (before here after : ByteArray) :
    (before ++ here ++ after).extract before.size (before.size + here.size) = here :=
  calc
    (before ++ here ++ after).extract before.size (before.size + here.size)
      = (here ++ after).extract 0 here.size := by
        rw [ByteArray.append_assoc]
        exact ByteArray.extract_append_size_add (i := 0)
    _ = here := ByteArray.extract_append_eq_left rfl

/-- The table goes by the bytes of the characters before each position. -/
theorem getElem?_offsetsFrom (start : Nat) (text : List Char) (pos : Nat)
    (inside : pos ≤ text.length) :
    (offsetsFrom start text)[pos]? = some (start + byteLength (text.take pos)) := by
  induction text generalizing start pos with
  | nil =>
      obtain rfl := Nat.le_zero.mp inside
      rfl
  | cons c text ih =>
      cases pos with
      | zero => rfl
      | succ pos =>
          rw [offsetsFrom, List.getElem?_cons_succ, ih _ pos (Nat.le_of_succ_le_succ inside),
            List.take_succ_cons, byteLength_cons, Nat.add_assoc]

namespace Subject

variable (s : Subject) {start stop pos : Nat}

def offset (pos : Nat) : Nat :=
  byteLength (s.slice 0 pos)

theorem offset_zero : s.offset 0 = 0 := by
  rw [offset, slice_self, byteLength_nil]

theorem offset_size : s.offset s.size = s.encode.bytes.size := by
  rw [offset, slice_zero_size, encode, size_utf8]

theorem offset_add (inOrder : start ≤ stop) :
    s.offset stop = s.offset start + byteLength (s.slice start stop) := by
  rw [offset, offset, ← byteLength_append, slice_append s (Nat.zero_le start) inOrder]

theorem offsets_encode (inside : pos ≤ s.size) : s.encode.offsets[pos]? = some (s.offset pos) := by
  rw [encode, List.getElem?_toArray, getElem?_offsetsFrom 0 _ pos (by simpa [size] using inside),
    Nat.zero_add, offset, slice, Array.toList_extract]
  rfl

/-- The bytes between two positions are those of the characters between them. -/
theorem slice?_encode (inOrder : start ≤ stop) (inside : stop ≤ s.size) :
    s.encode.slice? (s.offset start) (s.offset stop) =
      some (utf8 (s.slice start stop)) := by
  have further := s.offset_add inOrder
  have listed : ∀ {pos}, pos ≤ s.size → s.offset pos ∈ s.encode.offsets := fun inside =>
    Array.mem_of_getElem? (s.offsets_encode inside)
  have parts : s.encode.bytes = utf8 (s.slice 0 start) ++
      utf8 (s.slice start stop) ++ utf8 (s.slice stop s.size) := by
    rw [← utf8_append, ← utf8_append, slice_append s (Nat.zero_le start) inOrder,
      slice_append s (Nat.zero_le stop) inside, slice_zero_size, encode]
  rw [Encoded.slice?, if_pos ⟨by omega, listed (Nat.le_trans inOrder inside), listed inside⟩, parts,
    further, offset, ← size_utf8, ← size_utf8, extract_middle]

theorem spanBytes?_encode {span : Span} (inOrder : span.start ≤ span.stop)
    (inside : span.stop ≤ s.size) :
    s.encode.spanBytes? span = some (utf8 (s.spanText span)) := by
  rw [Encoded.spanBytes?, offsets_encode s (Nat.le_trans inOrder inside), offsets_encode s inside]
  exact s.slice?_encode inOrder inside

end Subject

end Rematch
