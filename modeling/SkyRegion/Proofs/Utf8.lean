import SkyRegion.Text.Utf8

/-! Text and its bytes. The decoder reads one sequence after another, a sequence is the encoding of the scalar value it
stands for, and so exactly the encodings of texts are decoded. -/

namespace SkyRegion.Text.Utf8

theorem isContinuation_iff (byte : UInt8) : isContinuation byte = true ↔ 0x80 ≤ byte.toNat ∧ byte.toNat < 0xC0 := by
  simp [isContinuation]

theorem mayFollow_iff (lead second : UInt8) : mayFollow lead second = true ↔
    isContinuation second = true ∧ (lead.toNat = 0xE0 → 0xA0 ≤ second.toNat) ∧ (lead.toNat = 0xED → second.toNat < 0xA0) ∧
      (lead.toNat = 0xF0 → 0x90 ≤ second.toNat) ∧ (lead.toNat = 0xF4 → second.toNat < 0x90) := by
  rw [mayFollow, Bool.and_eq_true]
  refine and_congr_right fun _ => ?_
  split <;> simp_all

theorem sequenceLength?_eq_some (lead : UInt8) (size : Nat) : sequenceLength? lead = some size ↔
    size = 1 ∧ lead.toNat < 0x80 ∨ size = 2 ∧ 0xC2 ≤ lead.toNat ∧ lead.toNat < 0xE0 ∨
      size = 3 ∧ 0xE0 ≤ lead.toNat ∧ lead.toNat < 0xF0 ∨ size = 4 ∧ 0xF0 ≤ lead.toNat ∧ lead.toNat < 0xF5 := by
  rw [sequenceLength?]
  grind

/-- Bytes that the decoder takes together, and the code it takes them for. -/
inductive IsSequence : List UInt8 → Nat → Prop where
  | one {lead : UInt8} {code : Nat} (length : sequenceLength? lead = some 1) (value : lead.toNat = code) :
      IsSequence [lead] code
  | two {lead second : UInt8} {code : Nat} (length : sequenceLength? lead = some 2)
      (follows : mayFollow lead second = true) (value : lead.toNat % 0x20 * 0x40 + payload second = code) :
      IsSequence [lead, second] code
  | three {lead second third : UInt8} {code : Nat} (length : sequenceLength? lead = some 3)
      (follows : mayFollow lead second = true) (continues : isContinuation third = true)
      (value : (lead.toNat % 0x10 * 0x40 + payload second) * 0x40 + payload third = code) :
      IsSequence [lead, second, third] code
  | four {lead second third fourth : UInt8} {code : Nat} (length : sequenceLength? lead = some 4)
      (follows : mayFollow lead second = true) (continues : isContinuation third = true)
      (ends : isContinuation fourth = true)
      (value : ((lead.toNat % 0x08 * 0x40 + payload second) * 0x40 + payload third) * 0x40 + payload fourth = code) :
      IsSequence [lead, second, third, fourth] code

theorem IsSequence.decodeFrom_append {bytes : List UInt8} {code : Nat} (sequence : IsSequence bytes code) (position : Nat)
    (rest : List UInt8) : decodeFrom position (bytes ++ rest) =
      (decodeFrom (position + bytes.length) rest).map (Char.ofNat code :: ·) := by
  rw [decodeFrom.eq_def position]
  cases sequence with
  | one length value => simp [length, value]
  | two length follows value => simp [length, follows, value]
  | three length follows continues value => simp [length, follows, continues, value]
  | four length follows continues ends value => simp [length, follows, continues, ends, value]

theorem toNat_ofNat {code : Nat} (small : code < 0x100) : (UInt8.ofNat code).toNat = code :=
  UInt8.toNat_ofNat_of_lt small

theorem ofNat_eq {code : Nat} {byte : UInt8} (same : code = byte.toNat) : UInt8.ofNat code = byte := by
  rw [same, UInt8.ofNat_toNat]

theorem payload_lt (byte : UInt8) : payload byte < 0x40 := Nat.mod_lt _ (by decide)

theorem toNat_of_isContinuation {byte : UInt8} (continues : isContinuation byte = true) :
    byte.toNat = 0x80 + payload byte := by
  rw [isContinuation_iff] at continues
  rw [payload]
  omega

theorem toNat_continuation (bits : Nat) : (continuation bits).toNat = 0x80 + bits % 0x40 :=
  toNat_ofNat (by omega)

theorem isContinuation_continuation (bits : Nat) : isContinuation (continuation bits) = true := by
  rw [isContinuation_iff, toNat_continuation]
  omega

theorem payload_continuation (bits : Nat) : payload (continuation bits) = bits % 0x40 := by
  rw [payload, toNat_continuation]
  omega

theorem continuation_eq {bits : Nat} {byte : UInt8} (continues : isContinuation byte = true)
    (same : bits % 0x40 = payload byte) : continuation bits = byte :=
  ofNat_eq (by rw [same, toNat_of_isContinuation continues])

theorem toNat_ofNat_of_isValidChar {code : Nat} (valid : code < 0xD800 ∨ 0xDFFF < code ∧ code < 0x110000) :
    (Char.ofNat code).toNat = code := by
  rw [Char.ofNat, dif_pos valid]
  exact UInt32.toNat_ofNatLT ..

/-- A sequence is the encoding of the scalar value it stands for. -/
theorem IsSequence.encodeChar_eq {bytes : List UInt8} {code : Nat} (sequence : IsSequence bytes code) :
    encodeChar (Char.ofNat code) = bytes := by
  cases sequence with
  | @one lead _ length value =>
    rw [sequenceLength?_eq_some] at length
    rw [encodeChar, toNat_ofNat_of_isValidChar (by omega), if_pos (by omega), ofNat_eq value.symm]
  | @two lead second _ length follows value =>
    rw [sequenceLength?_eq_some] at length
    rw [mayFollow_iff] at follows
    have bits := payload_lt second
    rw [encodeChar, toNat_ofNat_of_isValidChar (by omega), if_neg (by omega), if_pos (by omega),
      @ofNat_eq _ lead (by omega), continuation_eq follows.1 (by omega)]
  | @three lead second third _ length follows continues value =>
    rw [sequenceLength?_eq_some] at length
    obtain ⟨continues', after⟩ := (mayFollow_iff lead second).mp follows
    have second' := toNat_of_isContinuation continues'
    have bits := And.intro (payload_lt second) (payload_lt third)
    rw [encodeChar, toNat_ofNat_of_isValidChar (by omega), if_neg (by omega), if_neg (by omega), if_pos (by omega),
      @ofNat_eq _ lead (by omega), continuation_eq continues' (by omega), continuation_eq continues (by omega)]
  | @four lead second third fourth _ length follows continues ends value =>
    rw [sequenceLength?_eq_some] at length
    obtain ⟨continues', after⟩ := (mayFollow_iff lead second).mp follows
    have second' := toNat_of_isContinuation continues'
    have bits := And.intro (payload_lt second) (And.intro (payload_lt third) (payload_lt fourth))
    rw [encodeChar, toNat_ofNat_of_isValidChar (by omega), if_neg (by omega), if_neg (by omega), if_neg (by omega),
      @ofNat_eq _ lead (by omega), continuation_eq continues' (by omega), continuation_eq continues (by omega),
      continuation_eq ends (by omega)]

theorem mayFollow_continuation {lead : UInt8} {bits : Nat} (inside : (lead.toNat = 0xE0 → 0x20 ≤ bits % 0x40) ∧
    (lead.toNat = 0xED → bits % 0x40 < 0x20) ∧ (lead.toNat = 0xF0 → 0x10 ≤ bits % 0x40) ∧
      (lead.toNat = 0xF4 → bits % 0x40 < 0x10)) : mayFollow lead (continuation bits) = true := by
  rw [mayFollow_iff, toNat_continuation]
  refine ⟨isContinuation_continuation bits, ?_⟩
  omega

/-- The encoding of a scalar value is a sequence that stands for it. -/
theorem isSequence_encodeChar (c : Char) : IsSequence (encodeChar c) c.toNat := by
  have valid : c.toNat < 0xD800 ∨ 0xDFFF < c.toNat ∧ c.toNat < 0x110000 := c.valid
  rw [encodeChar]
  generalize c.toNat = code at valid
  by_cases one : code < 0x80
  · have lead : (UInt8.ofNat code).toNat = code := toNat_ofNat (by omega)
    rw [if_pos one]
    exact .one ((sequenceLength?_eq_some ..).mpr (by omega)) lead
  by_cases two : code < 0x800
  · have lead : (UInt8.ofNat (0xC0 + code / 0x40)).toNat = 0xC0 + code / 0x40 := toNat_ofNat (by omega)
    rw [if_neg one, if_pos two]
    refine .two ((sequenceLength?_eq_some ..).mpr (by omega)) (mayFollow_continuation (by omega)) ?_
    rw [lead, payload_continuation]
    omega
  by_cases three : code < 0x10000
  · have lead : (UInt8.ofNat (0xE0 + code / 0x1000)).toNat = 0xE0 + code / 0x1000 := toNat_ofNat (by omega)
    rw [if_neg one, if_neg two, if_pos three]
    refine .three ((sequenceLength?_eq_some ..).mpr (by omega)) (mayFollow_continuation (by omega))
      (isContinuation_continuation _) ?_
    rw [lead, payload_continuation, payload_continuation]
    omega
  · have lead : (UInt8.ofNat (0xF0 + code / 0x40000)).toNat = 0xF0 + code / 0x40000 := toNat_ofNat (by omega)
    rw [if_neg one, if_neg two, if_neg three]
    refine .four ((sequenceLength?_eq_some ..).mpr (by omega)) (mayFollow_continuation (by omega))
      (isContinuation_continuation _) (isContinuation_continuation _) ?_
    rw [lead, payload_continuation, payload_continuation, payload_continuation]
    omega

theorem map_cons_eq_ok {c : Char} {result : Except Utf8Fault Text} {text : Text}
    (mapped : result.map (c :: ·) = .ok text) : ∃ rest, result = .ok rest ∧ text = c :: rest := by
  cases result with
  | error fault => cases mapped
  | ok rest =>
    cases mapped
    exact ⟨rest, rfl, rfl⟩

theorem IsSequence.encode_cons {bytes : List UInt8} {code : Nat} (sequence : IsSequence bytes code) (text : Text) :
    encode (Char.ofNat code :: text) = bytes ++ encode text := by
  rw [encode, List.flatMap_cons, sequence.encodeChar_eq]
  rfl

theorem encode_of_decodeFrom {position : Nat} {bytes : List UInt8} {text : Text}
    (decoded : decodeFrom position bytes = .ok text) : encode text = bytes := by
  fun_induction decodeFrom position bytes generalizing text with
  | case1 =>
    cases decoded
    rfl
  | case3 position lead rest length ih =>
    obtain ⟨text', decoded', rfl⟩ := map_cons_eq_ok decoded
    rw [(IsSequence.one length rfl).encode_cons, ih decoded']
    rfl
  | case6 position lead second rest follows _ length ih =>
    obtain ⟨text', decoded', rfl⟩ := map_cons_eq_ok decoded
    rw [(IsSequence.two length (by simpa using follows) rfl).encode_cons, ih decoded']
    rfl
  | case9 position lead second follows third rest continues _ length _ ih =>
    obtain ⟨text', decoded', rfl⟩ := map_cons_eq_ok decoded
    rw [(IsSequence.three length (by simpa using follows) (by simpa using continues) rfl).encode_cons, ih decoded']
    rfl
  | case12 position lead size second several length follows _ third continues _ fourth rest ends ih =>
    obtain ⟨text', decoded', rfl⟩ := map_cons_eq_ok decoded
    have four : sequenceLength? lead = some 4 := by
      have several' : size ≠ 1 := several
      rw [sequenceLength?_eq_some] at length ⊢
      omega
    have sequence := IsSequence.four four (by simpa using follows) (by simpa using continues) (by simpa using ends) rfl
    rw [sequence.encode_cons, ih decoded']
    rfl
  | _ => cases decoded

theorem decodeFrom_encode (text : Text) (position : Nat) : decodeFrom position (encode text) = .ok text := by
  induction text generalizing position with
  | nil => rfl
  | cons c rest ih =>
    have sequence := isSequence_encodeChar c
    rw [encode, List.flatMap_cons, sequence.decodeFrom_append, ← encode, ih, Char.ofNat_toNat]
    rfl

/-- Exactly the encodings of texts are decoded, each as its own text. -/
theorem decode_eq_ok_iff (bytes : List UInt8) (text : Text) : decode bytes = .ok text ↔ encode text = bytes := by
  constructor
  · exact encode_of_decodeFrom
  · rintro rfl
    exact decodeFrom_encode text 0

/-- The encoding is that of the standard library. -/
theorem encodeChar_eq (c : Char) : encodeChar c = String.utf8EncodeChar c := by
  have valid : c.toNat < 0xD800 ∨ 0xDFFF < c.toNat ∧ c.toNat < 0x110000 := c.valid
  have last (bits : Nat) : UInt8.ofNat (bits % 64 + 128) = continuation bits := by
    rw [continuation, Nat.add_comm]
  rw [encodeChar, String.utf8EncodeChar]
  change _ = if c.toNat ≤ 127 then [UInt8.ofNat c.toNat] else if c.toNat ≤ 2047 then
      [UInt8.ofNat (c.toNat / 64 % 32 + 192), UInt8.ofNat (c.toNat % 64 + 128)]
    else if c.toNat ≤ 65535 then
      [UInt8.ofNat (c.toNat / 4096 % 16 + 224), UInt8.ofNat (c.toNat / 64 % 64 + 128), UInt8.ofNat (c.toNat % 64 + 128)]
    else [UInt8.ofNat (c.toNat / 262144 % 8 + 240), UInt8.ofNat (c.toNat / 4096 % 64 + 128),
      UInt8.ofNat (c.toNat / 64 % 64 + 128), UInt8.ofNat (c.toNat % 64 + 128)]
  generalize c.toNat = code at valid
  simp only [last]
  by_cases one : code < 0x80
  · rw [if_pos one, if_pos (by omega)]
  by_cases two : code < 0x800
  · rw [if_neg one, if_pos two, if_neg (by omega), if_pos (by omega),
      show code / 64 % 32 + 192 = 0xC0 + code / 0x40 by omega]
  by_cases three : code < 0x10000
  · rw [if_neg one, if_neg two, if_pos three, if_neg (by omega), if_neg (by omega), if_pos (by omega),
      show code / 4096 % 16 + 224 = 0xE0 + code / 0x1000 by omega]
  · rw [if_neg one, if_neg two, if_neg three, if_neg (by omega), if_neg (by omega), if_neg (by omega),
      show code / 262144 % 8 + 240 = 0xF0 + code / 0x40000 by omega]

theorem encode_eq (text : Text) : encode text = text.utf8Encode.data.toList := by
  have same : encodeChar = String.utf8EncodeChar := funext encodeChar_eq
  rw [encode, same, List.utf8Encode]
  simp

theorem decode_fails_of_not_isValidUTF8 {bytes : List UInt8} (invalid : ¬bytes.toByteArray.IsValidUTF8) :
    ∃ fault, decode bytes = .error fault := by
  cases decoded : decode bytes with
  | error fault => exact ⟨fault, rfl⟩
  | ok text =>
    rw [decode_eq_ok_iff, encode_eq] at decoded
    refine absurd ⟨text, ?_⟩ invalid
    exact ByteArray.ext (by simp [← decoded])

end SkyRegion.Text.Utf8
