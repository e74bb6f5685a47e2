import PocketCalc.Console.Piped

/-!
# Bytes as lines

`Piped.rawLines` goes through bytes one by one. Here is the same cut as it is usually described:
the bytes are split at line feeds, every piece but the last was ended by one and loses a carriage
return from its end, and the last piece is a line if there is anything in it (`byteLines`).

The other direction is `encodeLines`, which writes texts out in UTF-8 with a line feed after each.
Texts without control characters are read back from it as they were (`inputs_encodeLines`). Of
UTF-8 this takes two facts: what was encoded is decoded, and a byte below 0x80 stands for the
character of that code and for nothing else (`ofNat_not_mem_encode`).
-/

namespace PocketCalc.Piped

/-- The lines that bytes are split into, each without its end. -/
def byteLines (bytes : List UInt8) : List (List UInt8) :=
  let pieces := bytes.splitOn lineFeed
  pieces.dropLast.map (dropFinal carriageReturn) ++ pieces.getLast?.toList.filter (!·.isEmpty)

/-- The bytes of a text. -/
def encode (text : Text) : List UInt8 := text.flatMap String.utf8EncodeChar

/-- The bytes of texts, each with a line feed after it. -/
def encodeLines (texts : List Text) : List UInt8 :=
  texts.flatMap fun text => encode text ++ [lineFeed]

/-! ## One line at a time -/

theorem rawLines_append_lineFeed {piece : List UInt8} (h : lineFeed ∉ piece) (rest : List UInt8) :
    rawLines (piece ++ lineFeed :: rest) = (piece ++ [lineFeed]) :: rawLines rest := by
  induction piece with
  | nil => simp [rawLines]
  | cons byte piece ih =>
    rw [List.mem_cons, not_or] at h
    rw [List.cons_append, rawLines, if_neg (Ne.symm h.1), ih h.2]
    rfl

theorem rawLines_of_not_mem {piece : List UInt8} (h : lineFeed ∉ piece) :
    rawLines piece = [piece].filter (!·.isEmpty) := by
  induction piece with
  | nil => rfl
  | cons byte piece ih =>
    rw [List.mem_cons, not_or] at h
    rw [rawLines, if_neg (Ne.symm h.1), ih h.2]
    cases piece <;> rfl

theorem byteLines_append_lineFeed {piece : List UInt8} (h : lineFeed ∉ piece)
    (rest : List UInt8) :
    byteLines (piece ++ lineFeed :: rest) = dropFinal carriageReturn piece :: byteLines rest := by
  obtain ⟨next, others, hRest⟩ := List.exists_cons_of_ne_nil (List.splitOn_ne_nil lineFeed rest)
  simp [byteLines, List.splitOn_append_cons_self_of_not_mem h, hRest]

theorem byteLines_of_not_mem {piece : List UInt8} (h : lineFeed ∉ piece) :
    byteLines piece = [piece].filter (!·.isEmpty) := by
  simp [byteLines, List.splitOn_eq_singleton h]

theorem dropLineEnd_lineFeed (piece : List UInt8) :
    dropLineEnd (piece ++ [lineFeed]) = dropFinal carriageReturn piece := by
  simp [dropLineEnd]

theorem dropLineEnd_of_not_mem {piece : List UInt8} (h : lineFeed ∉ piece) :
    dropLineEnd piece = piece :=
  if_neg fun hLast => h (List.mem_of_getLast? hLast)

/-- **Raw lines are the pieces between line feeds.** -/
theorem map_dropLineEnd_rawLines (bytes : List UInt8) :
    (rawLines bytes).map dropLineEnd = byteLines bytes := by
  induction hLength : bytes.length using Nat.strongRecOn generalizing bytes with
  | ind length ih =>
    by_cases hMem : lineFeed ∈ bytes
    · obtain ⟨piece, rest, rfl, hPiece⟩ := List.eq_append_cons_of_mem hMem
      have hRest : rest.length < length := by
        rw [← hLength, List.length_append, List.length_cons]
        omega
      rw [rawLines_append_lineFeed hPiece, byteLines_append_lineFeed hPiece, List.map_cons,
        dropLineEnd_lineFeed, ih rest.length hRest rest rfl]
    · rw [rawLines_of_not_mem hMem, byteLines_of_not_mem hMem]
      cases bytes with
      | nil => rfl
      | cons byte rest => simp [dropLineEnd_of_not_mem hMem]

/-- After a line feed the cut starts anew. -/
theorem rawLines_append {bytes : List UInt8} (h : bytes.getLast? = some lineFeed)
    (more : List UInt8) : rawLines (bytes ++ more) = rawLines bytes ++ rawLines more := by
  induction hLength : bytes.length using Nat.strongRecOn generalizing bytes with
  | ind length ih =>
    obtain ⟨piece, rest, rfl, hPiece⟩ := List.eq_append_cons_of_mem (List.mem_of_getLast? h)
    rw [List.append_assoc, List.cons_append, rawLines_append_lineFeed hPiece,
      rawLines_append_lineFeed hPiece, List.cons_append]
    cases rest with
    | nil => rfl
    | cons byte rest =>
      have hLast : (byte :: rest).getLast? = some lineFeed := by
        simpa [List.getLast?_append] using h
      have hShorter : (byte :: rest).length < length := by
        simp only [← hLength, List.length_append, List.length_cons]
        omega
      rw [ih _ hShorter hLast rfl]

/-! ## UTF-8 -/

theorem decode?_encode (text : Text) : decode? (encode text) = some text := by
  have hValid : (encode text).toByteArray.IsValidUTF8 := .intro text rfl
  have hString : String.fromUTF8 (encode text).toByteArray hValid = String.ofList text := rfl
  simp [decode?, String.fromUTF8?, hValid, hString]

/-- A byte below 0x80 in the encoding of a character is its code. -/
theorem eq_of_ofNat_mem_utf8EncodeChar {c d : Char} (hAscii : c.toNat < 0x80)
    (h : UInt8.ofNat c.toNat ∈ String.utf8EncodeChar d) : c = d := by
  have hByte {n : Nat} (hn : UInt8.ofNat c.toNat = UInt8.ofNat n) : c.toNat = n % 256 := by
    have hNat := congrArg UInt8.toNat hn
    simp only [UInt8.toNat_ofNat'] at hNat
    omega
  have hCode : d.val.toNat = d.toNat := rfl
  simp only [String.utf8EncodeChar, hCode] at h
  split at h
  · have hSame := hByte (List.mem_singleton.mp h)
    exact Char.toNat_inj.mp (by omega)
  -- The bytes of longer encodings are all marked by their highest bit.
  · exfalso
    split at h
    · simp only [List.mem_cons, List.not_mem_nil, or_false] at h
      rcases h with h | h <;> have := hByte h <;> omega
    · split at h
      · simp only [List.mem_cons, List.not_mem_nil, or_false] at h
        rcases h with h | h | h <;> have := hByte h <;> omega
      · simp only [List.mem_cons, List.not_mem_nil, or_false] at h
        rcases h with h | h | h | h <;> have := hByte h <;> omega

theorem ofNat_not_mem_encode {c : Char} (hAscii : c.toNat < 0x80) {text : Text} (h : c ∉ text) :
    UInt8.ofNat c.toNat ∉ encode text := by
  intro hMem
  obtain ⟨d, hd, hByte⟩ := List.mem_flatMap.mp hMem
  exact h (eq_of_ofNat_mem_utf8EncodeChar hAscii hByte ▸ hd)

theorem lineFeed_not_mem_encode {text : Text} (h : '\n' ∉ text) : lineFeed ∉ encode text :=
  ofNat_not_mem_encode (by decide) h

theorem dropFinal_encode {text : Text} (h : '\r' ∉ text) :
    dropFinal carriageReturn (encode text) = encode text := by
  have hByte : carriageReturn ∉ encode text := ofNat_not_mem_encode (by decide) h
  exact if_neg fun hLast => hByte (List.mem_of_getLast? hLast)

/-! ## Texts written out and read back -/

theorem rawLines_encodeLines {texts : List Text} (h : ∀ text ∈ texts, '\n' ∉ text) :
    rawLines (encodeLines texts) = texts.map fun text => encode text ++ [lineFeed] := by
  induction texts with
  | nil => rfl
  | cons text rest ih =>
    rw [List.forall_mem_cons] at h
    have hCons : encodeLines (text :: rest) = encode text ++ lineFeed :: encodeLines rest := by
      simp [encodeLines]
    rw [hCons, rawLines_append_lineFeed (lineFeed_not_mem_encode h.1), ih h.2, List.map_cons]

/-- A text that neither a line end nor a backspace disturbs is read as it was written. -/
theorem input_encode {text : Text} (hReturn : '\r' ∉ text) (hBackspace : Text.backspace ∉ text) :
    input (encode text ++ [lineFeed]) = .line text := by
  rw [input, dropLineEnd_lineFeed, dropFinal_encode hReturn, decode?_encode]
  simp only [Text.applyBackspaces?_eq_some hBackspace]

/-- **Texts written out line by line are read back** if no control character is in them. -/
theorem inputs_encodeLines {texts : List Text}
    (h : ∀ text ∈ texts, '\n' ∉ text ∧ '\r' ∉ text ∧ Text.backspace ∉ text) :
    inputs (encodeLines texts) = texts.map .line := by
  rw [inputs, rawLines_encodeLines fun text hText => (h text hText).1, List.map_map]
  refine List.map_congr_left fun text hText => ?_
  obtain ⟨_, hReturn, hBackspace⟩ := h text hText
  exact input_encode hReturn hBackspace

end PocketCalc.Piped
