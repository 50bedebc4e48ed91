import SkyRegion.CommonUnits.Library
import SkyRegion.Import.File
import SkyRegion.Proofs.TextParts
import SkyRegion.Proofs.Utf8

/-! Files as texts. The encoding of a text is imported as the text is: the line breaks that a file gives for its own end
the same lines. Bytes that encode no text interrupt the import before it begins. -/

namespace SkyRegion

open Image Text

namespace Text

/-- A carriage return ends the line that the line feed in its place ends. -/
theorem physicalLines_unifyBreaks (text : Text) : physicalLines (unifyBreaks text) = physicalLines text := by
  induction text using unifyBreaks.induct with
  | case1 => rfl
  | case2 rest ih =>
    rw [unifyBreaks, physicalLines_lineFeed, ih, physicalLines]
  | case3 c rest apart ih =>
    rw [unifyBreaks, physicalLines_cons_of_apart apart]
    · by_cases carriage : c = '\r'
      · rw [if_pos carriage, physicalLines_lineFeed, ih, carriage]
        rfl
      · rw [if_neg carriage, physicalLines_cons_of_apart fun _ same => absurd same carriage, ih]
    · exact apart

theorem logicalLines?_unifyBreaks (delimiter text : Text) :
    logicalLines? delimiter (unifyBreaks text) = logicalLines? delimiter text := by
  rw [logicalLines?, logicalLines?, physicalLines_unifyBreaks]

end Text

namespace Import

theorem decodeFile_utf8Encode (text : Text) : decodeFile text.utf8Encode.data.toList = .ok (unifyBreaks text) := by
  have decoded := (Utf8.decode_eq_ok_iff _ text).mpr (Utf8.encode_eq text)
  rw [decodeFile, decoded]
  rfl

/-- A file with the encoding of a text is imported as the text is, whatever ends its lines; one with bytes that no text
has is unreadable. -/
theorem ofFile_eq_ofText [UnitLibrary] (fileId : Int) (delimiter file : Text) :
    (∀ text : Text, ofFile fileId delimiter file (.ok text.utf8Encode.data.toList) = ofText fileId delimiter text) ∧
      ∀ bytes : List UInt8, ¬bytes.toByteArray.IsValidUTF8 → ∃ fault, Utf8.decode bytes = .error fault ∧
        ofFile fileId delimiter file (.ok bytes) = throw (.unreadable file fault.message) := by
  refine ⟨fun text => ?_, fun bytes invalid => ?_⟩
  · have content : (Except.ok text.utf8Encode.data.toList >>= decodeFile) = .ok (unifyBreaks text) :=
      decodeFile_utf8Encode text
    rw [ofFile, content]
    simp only [ofText, logicalLines?_unifyBreaks]
  · obtain ⟨fault, decoded⟩ := Utf8.decode_fails_of_not_isValidUTF8 invalid
    have content : (Except.ok bytes >>= decodeFile) = .error fault.message := by
      change decodeFile bytes = _
      rw [decodeFile, decoded]
      rfl
    refine ⟨fault, decoded, ?_⟩
    rw [ofFile, content]

section

open CommonUnits

/-- The second byte of a sequence of two is missing. -/
theorem ofFile_eq_ofText_of_broken :
    let text := "fk5\r\npoint(1,2)\rcircle(1,2,3)\x85text\n".toList
    let bytes : List UInt8 := [0x66, 0x6B, 0x35, 0x0A, 0xC3, 0x28]
    ofFile 7 [';'] "a.reg".toList (.ok text.utf8Encode.data.toList) = ofText 7 [';'] text ∧
      ¬bytes.toByteArray.IsValidUTF8 ∧ ∃ fault, Utf8.decode bytes = .error fault ∧
        ofFile 7 [';'] "a.reg".toList (.ok bytes) = throw (.unreadable "a.reg".toList fault.message) := by
  intro text bytes
  obtain ⟨encoded, broken⟩ := ofFile_eq_ofText 7 [';'] "a.reg".toList
  have invalid : ¬bytes.toByteArray.IsValidUTF8 := by decide
  exact ⟨encoded text, invalid, broken bytes invalid⟩

end

end Import
end SkyRegion
