import SpotCheck.Bytes

/-!
# Texts as bytes

The stored form of a text is that of its characters, one after the other, and tells the text.
-/

namespace SpotCheck.Bytes

theorem ofText_eq (text : String) :
    ofText text = text.toList.flatMap String.utf8EncodeChar := by
  have h : text.toUTF8.data = (text.toList.flatMap String.utf8EncodeChar).toByteArray.data :=
    congrArg ByteArray.data String.utf8Encode_toList.symm
  rw [ofText, h, List.data_toByteArray]

theorem toText?_eq_some_iff {bytes : Bytes} {text : String} :
    toText? bytes = some text ↔ bytes = ofText text := by
  unfold toText? String.fromUTF8?
  constructor
  · intro h
    split at h
    · cases h
      rfl
    · cases h
  · intro h
    subst h
    have hvalid : (⟨(ofText text).toArray⟩ : ByteArray).IsValidUTF8 := text.isValidUTF8
    rw [dif_pos hvalid]
    exact congrArg some (String.toByteArray_inj.1 rfl)

theorem length_ofText (text : String) : (ofText text).length = text.utf8ByteSize := rfl

end SpotCheck.Bytes
