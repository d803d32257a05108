namespace Base64

/-!
# Base64

The standard encoding of bytes, with padding, and decoders that are lenient
about whitespace and about the alphabet.  Decoding goes on behind an encoding
without padding and stops at the padding of any other one.
-/

/-- The character of a value below 64 in the standard alphabet. -/
def digit (value : Nat) : Char :=
  if value < 26 then
    Char.ofNat ('A'.toNat + value)
  else if value < 52 then
    Char.ofNat ('a'.toNat + (value - 26))
  else if value < 62 then
    Char.ofNat ('0'.toNat + (value - 52))
  else if value = 62 then
    '+'
  else
    '/'

/-- The value of a character of the standard or the URL-safe alphabet. -/
def value? (character : Char) : Option Nat :=
  if character.isUpper then
    some (character.toNat - 'A'.toNat)
  else if character.isLower then
    some (character.toNat - 'a'.toNat + 26)
  else if character.isDigit then
    some (character.toNat - '0'.toNat + 52)
  else if character = '+' ∨ character = '-' then
    some 62
  else if character = '/' ∨ character = '_' then
    some 63
  else
    none

/-- The standard character for a character of the URL-safe alphabet. -/
def standard (character : Char) : Char :=
  if character = '-' then
    '+'
  else if character = '_' then
    '/'
  else
    character

/-- Three bytes make four characters; the last ones are padded. -/
def encode : List UInt8 → List Char
  | [] => []
  | [first] =>
      [digit (first.toNat / 4), digit (first.toNat % 4 * 16), '=', '=']
  | [first, second] =>
      [digit (first.toNat / 4),
        digit (first.toNat % 4 * 16 + second.toNat / 16),
        digit (second.toNat % 16 * 4), '=']
  | first :: second :: third :: rest =>
      digit (first.toNat / 4) ::
        digit (first.toNat % 4 * 16 + second.toNat / 16) ::
        digit (second.toNat % 16 * 4 + third.toNat / 64) ::
        digit (third.toNat % 64) :: encode rest

/-- The bytes that whole values make; bits that do not fill a byte are dropped. -/
def bytesOfValues : List Nat → List UInt8
  | first :: second :: third :: fourth :: rest =>
      UInt8.ofNat (first * 4 + second / 16) ::
        UInt8.ofNat (second % 16 * 16 + third / 4) ::
        UInt8.ofNat (third % 4 * 64 + fourth) :: bytesOfValues rest
  | [first, second, third] =>
      [UInt8.ofNat (first * 4 + second / 16),
        UInt8.ofNat (second % 16 * 16 + third / 4)]
  | [first, second] => [UInt8.ofNat (first * 4 + second / 16)]
  | _ => []

/-- The values up to the first padding, without characters outside the alphabets. -/
def valuesOf : List Char → List Nat
  | [] => []
  | character :: rest =>
      if character = '=' then
        []
      else
        (value? character).toList ++ valuesOf rest

/-- The bytes of a text, read leniently. -/
def decode (text : List Char) : List UInt8 :=
  bytesOfValues (valuesOf text)

example : encode [77, 97] = ['T', 'W', 'E', '='] := by
  decide +kernel

/-- A decoder that skips whitespace, knows both alphabets and stops at padding. -/
structure IsDecoder (decoder : List Char → List UInt8) : Prop where
  empty : decoder [] = []
  whitespace :
    ∀ text, decoder (text.filter (!·.isWhitespace)) = decoder text
  urlSafe : ∀ text, decoder (text.map standard) = decoder text
  group :
    ∀ first second third rest,
      decoder (encode [first, second, third] ++ rest) =
        first :: second :: third :: decoder rest
  padded :
    ∀ bytes rest,
      bytes.length = 1 ∨ bytes.length = 2 →
      decoder (encode bytes ++ rest) = bytes

/-- The value of the character of a value is the value. -/
theorem value?_digit :
    ∀ value, value < 64 → value? (digit value) = some value := by
  decide +kernel

/-- No character of a value is the padding. -/
theorem digit_ne_padding :
    ∀ value, value < 64 → digit value ≠ '=' := by
  decide +kernel

/-- No character of a value is whitespace. -/
theorem isWhitespace_digit :
    ∀ value, value < 64 → (digit value).isWhitespace = false := by
  decide +kernel

/-- An encoding has no whitespace. -/
theorem isWhitespace_of_mem_encode
    {bytes : List UInt8}
    {character : Char}
    (member : character ∈ encode bytes) :
    character.isWhitespace = false := by
  induction bytes using encode.induct with
  | case1 =>
      cases member
  | case2 first =>
      have firstByte := first.toNat_lt
      simp only [encode, List.mem_cons, List.not_mem_nil, or_false] at member
      rcases member with rfl | rfl | rfl | rfl
      · exact isWhitespace_digit _ (by omega)
      · exact isWhitespace_digit _ (by omega)
      · decide
      · decide
  | case3 first second =>
      have firstByte := first.toNat_lt
      have secondByte := second.toNat_lt
      simp only [encode, List.mem_cons, List.not_mem_nil, or_false] at member
      rcases member with rfl | rfl | rfl | rfl
      · exact isWhitespace_digit _ (by omega)
      · exact isWhitespace_digit _ (by omega)
      · exact isWhitespace_digit _ (by omega)
      · decide
  | case4 first second third bytes inductionHypothesis =>
      have firstByte := first.toNat_lt
      have secondByte := second.toNat_lt
      have thirdByte := third.toNat_lt
      simp only [encode, List.mem_cons] at member
      rcases member with rfl | rfl | rfl | rfl | inRest
      · exact isWhitespace_digit _ (by omega)
      · exact isWhitespace_digit _ (by omega)
      · exact isWhitespace_digit _ (by omega)
      · exact isWhitespace_digit _ (by omega)
      · exact inductionHypothesis inRest

/-- Whitespace is outside the alphabets. -/
theorem value?_of_isWhitespace
    {character : Char}
    (isWhitespace : character.isWhitespace = true) :
    value? character = none ∧ character ≠ '=' := by
  simp only [Char.isWhitespace, Bool.or_eq_true, decide_eq_true_eq]
    at isWhitespace
  rcases isWhitespace with ((rfl | rfl) | rfl) | rfl <;> decide

/-- Both alphabets give a character the same value. -/
theorem value?_standard
    (character : Char) :
    value? (standard character) = value? character ∧
      (standard character = '=' ↔ character = '=') := by
  by_cases minus : character = '-'
  · subst minus
    decide
  · by_cases underscore : character = '_'
    · subst underscore
      decide
    · simp [standard, minus, underscore]

/-- The values of a text do not depend on whitespace. -/
theorem valuesOf_filter
    (text : List Char) :
    valuesOf (text.filter (!·.isWhitespace)) = valuesOf text := by
  induction text with
  | nil =>
      exact rfl
  | cons character rest inductionHypothesis =>
      cases isWhitespace : character.isWhitespace with
      | true =>
          obtain ⟨noValue, notPadding⟩ := value?_of_isWhitespace isWhitespace
          simp [valuesOf, isWhitespace, noValue, notPadding,
            inductionHypothesis]
      | false =>
          simp [valuesOf, isWhitespace, inductionHypothesis]

/-- The values of a text do not depend on the alphabet it uses. -/
theorem valuesOf_standard
    (text : List Char) :
    valuesOf (text.map standard) = valuesOf text := by
  induction text with
  | nil =>
      exact rfl
  | cons character rest inductionHypothesis =>
      obtain ⟨sameValue, samePadding⟩ := value?_standard character
      simp [valuesOf, sameValue, samePadding, inductionHypothesis]

/-- The value of a leading character is the first value. -/
theorem valuesOf_digit
    {value : Nat}
    (below : value < 64)
    (text : List Char) :
    valuesOf (digit value :: text) = value :: valuesOf text := by
  simp [valuesOf, digit_ne_padding value below, value?_digit value below]

/-- Nothing is read from the padding on. -/
theorem valuesOf_padding
    (text : List Char) :
    valuesOf ('=' :: text) = [] := by
  simp [valuesOf]

/-- A byte is put together from its upper six and its lower two bits. -/
theorem upper_lower
    (byte : UInt8)
    {next : Nat}
    (below : next < 16) :
    UInt8.ofNat (byte.toNat / 4 * 4 + (byte.toNat % 4 * 16 + next) / 16) =
      byte := by
  have sameByte :
      byte.toNat / 4 * 4 + (byte.toNat % 4 * 16 + next) / 16 =
        byte.toNat := by
    omega
  rw [sameByte, UInt8.ofNat_toNat]

/-- A byte is put together from its upper and its lower four bits. -/
theorem upperHalf_lowerHalf
    (byte : UInt8)
    (previous : Nat)
    {next : Nat}
    (below : next < 4) :
    UInt8.ofNat
        ((previous * 16 + byte.toNat / 16) % 16 * 16 +
          (byte.toNat % 16 * 4 + next) / 4) =
      byte := by
  have inByte := byte.toNat_lt
  have sameByte :
      (previous * 16 + byte.toNat / 16) % 16 * 16 +
          (byte.toNat % 16 * 4 + next) / 4 =
        byte.toNat := by
    omega
  rw [sameByte, UInt8.ofNat_toNat]

/-- A byte is put together from its upper two and its lower six bits. -/
theorem upper_lower_last
    (byte : UInt8)
    (previous : Nat) :
    UInt8.ofNat
        ((previous * 4 + byte.toNat / 64) % 4 * 64 + byte.toNat % 64) =
      byte := by
  have inByte := byte.toNat_lt
  have sameByte :
      (previous * 4 + byte.toNat / 64) % 4 * 64 + byte.toNat % 64 =
        byte.toNat := by
    omega
  rw [sameByte, UInt8.ofNat_toNat]

/-- Three bytes are read back from their four characters. -/
theorem decode_group
    (first second third : UInt8)
    (rest : List Char) :
    decode (encode [first, second, third] ++ rest) =
      first :: second :: third :: decode rest := by
  have firstByte := first.toNat_lt
  have secondByte := second.toNat_lt
  have thirdByte := third.toNat_lt
  simp only [encode, List.cons_append, List.nil_append, decode]
  rw [valuesOf_digit (by omega), valuesOf_digit (by omega),
    valuesOf_digit (by omega), valuesOf_digit (by omega), bytesOfValues,
    upper_lower first (by omega), upperHalf_lowerHalf second _ (by omega),
    upper_lower_last]

/-- One or two bytes are read back from their characters and the padding. -/
theorem decode_padded
    {bytes : List UInt8}
    (rest : List Char)
    (shorter : bytes.length = 1 ∨ bytes.length = 2) :
    decode (encode bytes ++ rest) = bytes := by
  match bytes with
  | [first] =>
      have firstByte := first.toNat_lt
      have readBack := upper_lower first (by decide : 0 < 16)
      simp only [encode, List.cons_append, decode]
      rw [valuesOf_digit (by omega), valuesOf_digit (by omega),
        valuesOf_padding, bytesOfValues]
      rw [Nat.add_zero] at readBack
      rw [readBack]
  | [first, second] =>
      have firstByte := first.toNat_lt
      have secondByte := second.toNat_lt
      have readBack :=
        upperHalf_lowerHalf second (first.toNat % 4) (by decide : 0 < 4)
      simp only [encode, List.cons_append, decode]
      rw [valuesOf_digit (by omega), valuesOf_digit (by omega),
        valuesOf_digit (by omega), valuesOf_padding, bytesOfValues,
        upper_lower first (by omega)]
      rw [Nat.add_zero] at readBack
      rw [readBack]
  | [] =>
      simp at shorter
  | _ :: _ :: _ :: _ =>
      simp at shorter

/-- The lenient reader is a decoder. -/
theorem isDecoder_decode : IsDecoder decode where
  empty := rfl
  whitespace text := by
    rw [decode, valuesOf_filter, decode]
  urlSafe text := by
    rw [decode, valuesOf_standard, decode]
  group := decode_group
  padded _ rest shorter := decode_padded rest shorter

section Decoders

variable {decoder : List Char → List UInt8}
  (decodes : IsDecoder decoder)

include decodes

/-- Decoding goes on behind an encoding without padding. -/
theorem IsDecoder.encode_append
    (bytes : List UInt8)
    (rest : List Char)
    (whole : bytes.length % 3 = 0) :
    decoder (encode bytes ++ rest) = bytes ++ decoder rest := by
  induction bytes using encode.induct with
  | case1 =>
      exact rfl
  | case2 first =>
      cases whole
  | case3 first second =>
      cases whole
  | case4 first second third bytes inductionHypothesis =>
      have wholeRest : bytes.length % 3 = 0 := by
        simp only [List.length_cons] at whole
        omega
      have readBack :=
        decodes.group first second third (encode bytes ++ rest)
      rw [inductionHypothesis wholeRest] at readBack
      exact readBack

/-- Decoding stops behind an encoding with padding. -/
theorem IsDecoder.encode_append_padded
    (bytes : List UInt8)
    (rest : List Char)
    (notWhole : bytes.length % 3 ≠ 0) :
    decoder (encode bytes ++ rest) = bytes := by
  induction bytes using encode.induct with
  | case1 =>
      exact absurd rfl notWhole
  | case2 first =>
      exact decodes.padded [first] rest (.inl rfl)
  | case3 first second =>
      exact decodes.padded [first, second] rest (.inr rfl)
  | case4 first second third bytes inductionHypothesis =>
      have notWholeRest : bytes.length % 3 ≠ 0 := by
        simp only [List.length_cons] at notWhole
        omega
      have readBack :=
        decodes.group first second third (encode bytes ++ rest)
      rw [inductionHypothesis notWholeRest] at readBack
      exact readBack

/-- A decoder undoes the encoding. -/
theorem IsDecoder.encode
    (bytes : List UInt8) :
    decoder (encode bytes) = bytes := by
  by_cases whole : bytes.length % 3 = 0
  · have readBack := decodes.encode_append bytes [] whole
    rwa [decodes.empty, List.append_nil, List.append_nil] at readBack
  · have readBack := decodes.encode_append_padded bytes [] whole
    rwa [List.append_nil] at readBack

end Decoders

end Base64
