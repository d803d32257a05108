import AwalaEndpoint.InternetEndpoint
import AwalaEndpoint.Library.Base64
import AwalaEndpoint.Stubs

namespace AwalaEndpoint

/-!
# The text of the public key

The deployment passes the public identity key in PEM or in base64 on one line.
`convertPemToDer` tells them apart by the number of lines, so that a line end
after the last line matters; here it is compared with every way to write a key.
-/

/-- The two usual ends of a line. -/
inductive LineEnd where
  | lf
  | crlf
  deriving Repr, DecidableEq

/-- What stands before the line feed at the end of a line. -/
def LineEnd.beforeFeed : LineEnd → List Char
  | .lf => []
  | .crlf => ['\r']

/-- The characters that end a line. -/
def LineEnd.characters (lineEnd : LineEnd) : List Char :=
  lineEnd.beforeFeed ++ ['\n']

/-- A text that is broken into lines, of any lengths, between two labelled lines. -/
structure PemBlock (content : List Char) where
  label : List Char
  labelOnOneLine : '\n' ∉ label
  lines : List (List Char)
  broken : lines.flatten = content

/-- A line that opens or closes a block, as the word says. -/
def boundary (word label : List Char) : List Char :=
  List.replicate 5 '-' ++ word ++ ' ' :: label ++ List.replicate 5 '-'

/-- The line before the lines of a block. -/
def PemBlock.beginLine
    {content : List Char}
    (block : PemBlock content) : List Char :=
  boundary ['B', 'E', 'G', 'I', 'N'] block.label

/-- The line after the lines of a block. -/
def PemBlock.endLine
    {content : List Char}
    (block : PemBlock content) : List Char :=
  boundary ['E', 'N', 'D'] block.label

/-- A key in PEM, or in base64 on a single line. -/
inductive KeyForm (der : Buffer) where
  | pem (block : PemBlock (Base64.encode der))
  | singleLine

/-- The lines before the last one. -/
def KeyForm.firstLines
    {der : Buffer} : KeyForm der → List (List Char)
  | .pem block => block.beginLine :: block.lines
  | .singleLine => []

/-- The last line. -/
def KeyForm.lastLine
    {der : Buffer} : KeyForm der → List Char
  | .pem block => block.endLine
  | .singleLine => Base64.encode der

/-- A key as written down: its form, the line ends and whether the last line has one. -/
structure KeyText (der : Buffer) where
  form : KeyForm der
  lineEnd : LineEnd
  endsLastLine : Bool

/-- The characters of a key as written down. -/
def KeyText.characters
    {der : Buffer}
    (key : KeyText der) : List Char :=
  key.form.firstLines.flatMap (· ++ key.lineEnd.characters) ++
    (key.form.lastLine ++
      if key.endsLastLine then key.lineEnd.characters else [])

/-- A key as written down. -/
def KeyText.text
    {der : Buffer}
    (key : KeyText der) : String :=
  String.ofList key.characters

/--
The last line has no line end, or it is the end of a block whose base64 is padded,
or there is no key at all on the single line.
-/
def KeyText.IsReadable
    {der : Buffer}
    (key : KeyText der) : Prop :=
  key.endsLastLine = true →
  match key.form with
  | .pem _ => der.length % 3 ≠ 0
  | .singleLine => der = []

/-- `Buffer.from(text, 'base64')`, from the characters of the text. -/
def Libraries.decodeBase64
    (libraries : Libraries)
    (characters : List Char) : Buffer :=
  libraries.bufferFromBase64 (String.ofList characters)

/-! ## The lines of a key -/

/-- Splitting at line feeds gives the lines, with what stands before each feed. -/
theorem splitOn_lines
    {lines : List (List Char)}
    (lineEnd : LineEnd)
    (rest : List Char)
    (noFeed : ∀ line ∈ lines, '\n' ∉ line) :
    (lines.flatMap (· ++ lineEnd.characters) ++ rest).splitOn '\n' =
      lines.map (· ++ lineEnd.beforeFeed) ++ rest.splitOn '\n' := by
  induction lines with
  | nil =>
      exact rfl
  | cons line lines inductionHypothesis =>
      have noFeedBefore : '\n' ∉ line ++ lineEnd.beforeFeed := by
        rw [List.mem_append, not_or]
        refine ⟨noFeed line List.mem_cons_self, ?_⟩
        cases lineEnd <;> decide
      have splitRest :=
        inductionHypothesis fun other member =>
          noFeed other (List.mem_cons_of_mem line member)
      have shape :
          (line :: lines).flatMap (· ++ lineEnd.characters) ++ rest =
            (line ++ lineEnd.beforeFeed) ++
              '\n' :: (lines.flatMap (· ++ lineEnd.characters) ++ rest) := by
        simp [LineEnd.characters]
      rw [shape, List.splitOn_append_cons_self_of_not_mem noFeedBefore,
        splitRest]
      exact rfl

/-- Appending texts in order is appending their characters. -/
theorem foldl_append_ofList
    (front : List Char)
    (lines : List (List Char)) :
    (lines.map String.ofList).foldl (· ++ ·) (String.ofList front) =
      String.ofList (front ++ lines.flatten) := by
  induction lines generalizing front with
  | nil =>
      simp
  | cons line lines inductionHypothesis =>
      rw [List.map_cons, List.foldl_cons, ← String.ofList_append,
        inductionHypothesis, List.flatten_cons, List.append_assoc]

/-- Joining the inner lines is joining their characters. -/
theorem joinInnerLines_ofList
    (lines : List (List Char)) :
    joinInnerLines (lines.map String.ofList) =
      String.ofList (lines.drop 1).dropLast.flatten := by
  have joined := foldl_append_ofList [] (lines.drop 1).dropLast
  rw [joinInnerLines, ← List.map_drop, ← List.map_dropLast]
  exact joined

/-- Lines are converted by decoding the only one, or the inner ones. -/
theorem convertPemToDer_lines
    (libraries : Libraries)
    {characters : List Char}
    {lines : List (List Char)}
    (split : characters.splitOn '\n' = lines) :
    convertPemToDer libraries (String.ofList characters) =
      libraries.decodeBase64
        (if lines.length = 1 then
          lines.headD []
        else
          (lines.drop 1).dropLast.flatten) := by
  have textLines :
      splitLines (String.ofList characters) = lines.map String.ofList := by
    rw [splitLines, String.toList_ofList, split]
  rw [convertPemToDer, textLines, List.length_map, joinInnerLines_ofList]
  by_cases single : lines.length = 1
  · obtain ⟨line, rfl⟩ := List.length_eq_one_iff.mp single
    exact rfl
  · simp only [single, ↓reduceIte, Libraries.decodeBase64]

section Conversion

variable {libraries : Libraries}
  {der : Buffer}

/-- Base64 has no line feeds of its own. -/
theorem noFeed_encode :
    '\n' ∉ Base64.encode der := by
  intro feed
  have notWhitespace := Base64.isWhitespace_of_mem_encode feed
  exact absurd notWhitespace (by decide)

/-- The line that opens or closes a block is a single line. -/
theorem noFeed_boundary
    {word label : List Char}
    (wordOnOneLine : '\n' ∉ word)
    (labelOnOneLine : '\n' ∉ label) :
    '\n' ∉ boundary word label := by
  simp [boundary, wordOnOneLine, labelOnOneLine]

/-- The lines of a block have no line feeds of their own. -/
theorem PemBlock.noFeed
    (block : PemBlock (Base64.encode der)) :
    ∀ line ∈ block.beginLine :: block.lines, '\n' ∉ line := by
  intro line member
  rcases List.mem_cons.mp member with rfl | inBlock
  · exact noFeed_boundary (by decide) block.labelOnOneLine
  · intro feed
    apply @noFeed_encode der
    rw [← block.broken]
    exact List.mem_flatten.mpr ⟨line, inBlock, feed⟩

theorem noFeed_lastLine
    (form : KeyForm der) :
    '\n' ∉ form.lastLine := by
  cases form with
  | pem block =>
      exact noFeed_boundary (by decide) block.labelOnOneLine
  | singleLine =>
      exact noFeed_encode

theorem noFeed_firstLines
    (form : KeyForm der) :
    ∀ line ∈ form.firstLines, '\n' ∉ line := by
  cases form with
  | pem block =>
      exact block.noFeed
  | singleLine =>
      intro line member
      cases member

/-- The lines a key is split into. -/
theorem KeyText.splitOn
    (key : KeyText der) :
    key.characters.splitOn '\n' =
      key.form.firstLines.map (· ++ key.lineEnd.beforeFeed) ++
        if key.endsLastLine then
          [key.form.lastLine ++ key.lineEnd.beforeFeed, []]
        else
          [key.form.lastLine] := by
  have noFeedLast := noFeed_lastLine key.form
  rw [KeyText.characters,
    splitOn_lines key.lineEnd _ (noFeed_firstLines key.form)]
  congr 1
  cases key.endsLastLine with
  | false =>
      simp only [Bool.false_eq_true, ↓reduceIte, List.append_nil]
      exact List.splitOn_eq_singleton noFeedLast
  | true =>
      have noFeed : ∀ line ∈ [key.form.lastLine], '\n' ∉ line := by
        simpa using noFeedLast
      have lastEnded := splitOn_lines key.lineEnd [] noFeed
      simpa using lastEnded

/-- Line ends within a text are whitespace. -/
theorem filter_flatten_lines
    (lineEnd : LineEnd)
    (lines : List (List Char)) :
    (lines.map (· ++ lineEnd.beforeFeed)).flatten.filter (!·.isWhitespace) =
      lines.flatten.filter (!·.isWhitespace) := by
  have noneLeft : lineEnd.beforeFeed.filter (!·.isWhitespace) = [] := by
    cases lineEnd <;> decide
  induction lines with
  | nil =>
      exact rfl
  | cons line lines inductionHypothesis =>
      simp only [List.map_cons, List.flatten_cons, List.filter_append,
        noneLeft, List.append_nil, inductionHypothesis]

/-- Base64 has no whitespace of its own. -/
theorem filter_encode
    (der : Buffer) :
    (Base64.encode der).filter (!·.isWhitespace) = Base64.encode der := by
  apply List.filter_eq_self.mpr
  intro character member
  rw [Base64.isWhitespace_of_mem_encode member]
  exact rfl

/-- The characters of the line that closes a block start with dashes. -/
theorem filter_endLine
    (block : PemBlock (Base64.encode der)) :
    ∃ rest,
      block.endLine.filter (!·.isWhitespace) =
        '-' :: '-' :: '-' :: '-' :: rest :=
  ⟨_, rfl⟩

/-- A line that closes a block is decoded to some bytes, since dashes are base64. -/
theorem decode_endLine
    (decodes : Base64.IsDecoder libraries.decodeBase64)
    (block : PemBlock (Base64.encode der)) :
    libraries.decodeBase64 (block.endLine.filter (!·.isWhitespace)) ≠ [] := by
  obtain ⟨rest, dashes⟩ := filter_endLine block
  have plusses :
      ('-' :: '-' :: '-' :: '-' :: rest).map Base64.standard =
        Base64.encode [0xfb, 0xef, 0xbe] ++ rest.map Base64.standard :=
    rfl
  rw [dashes, ← decodes.urlSafe, plusses, decodes.group]
  exact List.cons_ne_nil _ _

/-- A single line without an end is converted to the key. -/
theorem convert_singleLine
    (decodes : Base64.IsDecoder libraries.decodeBase64)
    (lineEnd : LineEnd) :
    convertPemToDer libraries
        (⟨.singleLine, lineEnd, false⟩ : KeyText der).text =
      der := by
  rw [KeyText.text, convertPemToDer_lines libraries (KeyText.splitOn _)]
  exact decodes.encode der

/-- Of a single line with an end nothing is left. -/
theorem convert_singleLine_ended
    (decodes : Base64.IsDecoder libraries.decodeBase64)
    (lineEnd : LineEnd) :
    convertPemToDer libraries
        (⟨.singleLine, lineEnd, true⟩ : KeyText der).text =
      [] := by
  rw [KeyText.text, convertPemToDer_lines libraries (KeyText.splitOn _)]
  exact decodes.empty

/-- A block whose last line has no end is converted to the key. -/
theorem convert_pem
    (decodes : Base64.IsDecoder libraries.decodeBase64)
    (block : PemBlock (Base64.encode der))
    (lineEnd : LineEnd) :
    convertPemToDer libraries
        (KeyText.text ⟨.pem block, lineEnd, false⟩) =
      der := by
  have inner :
      convertPemToDer libraries (KeyText.text ⟨.pem block, lineEnd, false⟩) =
        libraries.decodeBase64
          (block.lines.map (· ++ lineEnd.beforeFeed)).flatten := by
    rw [KeyText.text, convertPemToDer_lines libraries (KeyText.splitOn _)]
    simp [KeyForm.firstLines]
  rw [inner, ← decodes.whitespace, filter_flatten_lines, block.broken,
    filter_encode, decodes.encode]

/-- A block whose last line has an end is converted along with its last line. -/
theorem convert_pem_ended
    (decodes : Base64.IsDecoder libraries.decodeBase64)
    (block : PemBlock (Base64.encode der))
    (lineEnd : LineEnd) :
    convertPemToDer libraries (KeyText.text ⟨.pem block, lineEnd, true⟩) =
      libraries.decodeBase64
        (Base64.encode der ++ block.endLine.filter (!·.isWhitespace)) := by
  have inner :
      convertPemToDer libraries (KeyText.text ⟨.pem block, lineEnd, true⟩) =
        libraries.decodeBase64
          ((block.lines ++ [block.endLine]).map
            (· ++ lineEnd.beforeFeed)).flatten := by
    rw [KeyText.text, convertPemToDer_lines libraries (KeyText.splitOn _)]
    simp [KeyForm.firstLines, KeyForm.lastLine]
  rw [inner, ← decodes.whitespace, filter_flatten_lines, List.flatten_append,
    block.broken, List.filter_append, filter_encode, List.flatten_singleton]

/--
A key is converted to its bytes exactly when its last line has no end, or when it
is in a block and its base64 is padded.
-/
theorem convertPemToDer_iff
    (decodes : Base64.IsDecoder libraries.decodeBase64)
    (key : KeyText der) :
    convertPemToDer libraries key.text = der ↔ key.IsReadable := by
  obtain ⟨form, lineEnd, endsLastLine⟩ := key
  cases endsLastLine with
  | false =>
      have readable :
          (⟨form, lineEnd, false⟩ : KeyText der).IsReadable := by
        intro ends
        cases ends
      cases form with
      | pem block =>
          exact iff_of_true (convert_pem decodes block lineEnd) readable
      | singleLine =>
          exact iff_of_true (convert_singleLine decodes lineEnd) readable
  | true =>
      cases form with
      | pem block =>
          rw [convert_pem_ended decodes]
          by_cases whole : der.length % 3 = 0
          · rw [decodes.encode_append _ _ whole]
            constructor
            · intro nothingAdded
              exact absurd (List.append_right_eq_self.mp nothingAdded)
                (decode_endLine decodes block)
            · intro readable
              exact absurd whole (readable rfl)
          · exact iff_of_true (decodes.encode_append_padded _ _ whole)
              fun _ => whole
      | singleLine =>
          rw [convert_singleLine_ended decodes]
          constructor
          · intro nothing _
            exact nothing.symm
          · intro readable
            exact (readable rfl).symm

end Conversion

namespace Stubs

/-- Libraries that decode base64. -/
def base64Libraries : Libraries :=
  { routeLibraries with
    bufferFromBase64 := fun text => Base64.decode text.toList }

/-- Their decoder of base64. -/
theorem base64Libraries_decode :
    Base64.IsDecoder base64Libraries.decodeBase64 := by
  have sameDecoder : base64Libraries.decodeBase64 = Base64.decode := by
    funext characters
    simp [Libraries.decodeBase64, base64Libraries]
  rw [sameDecoder]
  exact Base64.isDecoder_decode

/-- A block with a single line. -/
def block (der : Buffer) : PemBlock (Base64.encode der) where
  label := "PUBLIC KEY".toList
  labelOnOneLine := by decide +kernel
  lines := [Base64.encode der]
  broken := List.flatten_singleton

/-- A file with a key in PEM. -/
def pemFile (der : Buffer) : KeyText der :=
  ⟨.pem (block der), .lf, true⟩

/-- A file with a key in base64 on a single line. -/
def base64File (der : Buffer) : KeyText der :=
  ⟨.singleLine, .lf, true⟩

end Stubs

/-- A key of four bytes in a file is converted to them. -/
theorem convertPemToDer_iff_stubs :
    convertPemToDer Stubs.base64Libraries
        (Stubs.pemFile [1, 2, 3, 4]).text = [1, 2, 3, 4] ↔
      (Stubs.pemFile [1, 2, 3, 4]).IsReadable :=
  convertPemToDer_iff Stubs.base64Libraries_decode (Stubs.pemFile [1, 2, 3, 4])

/--
A key of three bytes in a file gets further bytes, from the line that closes the
block; in base64 on a single line nothing of it is left.
-/
theorem key_files_misread :
    (Stubs.pemFile [1, 2, 3]).text =
        "-----BEGIN PUBLIC KEY-----\nAQID\n-----END PUBLIC KEY-----\n" ∧
      convertPemToDer Stubs.base64Libraries (Stubs.pemFile [1, 2, 3]).text =
        [1, 2, 3, 251, 239, 190, 248, 67, 67, 61, 64, 75, 32, 34, 132, 99,
          239, 190, 251] ∧
      ¬ convertPemToDer Stubs.base64Libraries
          (Stubs.pemFile [1, 2, 3]).text = [1, 2, 3] ∧
      (Stubs.base64File [1, 2, 3]).text = "AQID\n" ∧
      convertPemToDer Stubs.base64Libraries
          (Stubs.base64File [1, 2, 3]).text = [] := by
  refine ⟨?_, ?_, ?_, ?_, ?_⟩ <;> decide +kernel

end AwalaEndpoint
