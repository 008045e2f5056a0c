/-!
The length of a text in bytes of UTF-8, and the front of a text that fits into some bytes.
`utf8ByteSize_ofList` says that a list of characters is as long as the string made of it.
-/

namespace ReleaseUpload.Text

/-- Bytes of UTF-8. -/
def size : List Char → Nat
  | [] => 0
  | c :: rest => c.utf8Size + size rest

@[simp] theorem size_append (front back : List Char) :
    size (front ++ back) = size front + size back := by
  induction front with
  | nil => simp [size]
  | cons c rest inductionHypothesis => simp [size, inductionHypothesis, Nat.add_assoc]

/-- Characters of one byte each. -/
theorem size_eq_length {chars : List Char} (narrow : ∀ c ∈ chars, c.utf8Size = 1) :
    size chars = chars.length := by
  induction chars with
  | nil => rfl
  | cons c rest inductionHypothesis =>
    have first := narrow c List.mem_cons_self
    have others := inductionHypothesis fun c found => narrow c (List.mem_cons_of_mem _ found)
    simp only [size, List.length_cons]
    omega

theorem utf8ByteSize_ofList (chars : List Char) :
    (String.ofList chars).utf8ByteSize = size chars := by
  induction chars with
  | nil => simp [size]
  | cons c rest inductionHypothesis =>
    have one : (String.ofList [c]).utf8ByteSize = c.utf8Size := by
      rw [← String.size_toByteArray, String.toByteArray_ofList, List.utf8Encode_singleton,
        List.size_toByteArray, String.length_utf8EncodeChar]
    rw [← List.singleton_append, String.ofList_append, String.utf8ByteSize_append, one,
      inductionHypothesis]
    rfl

/-- The characters from the front on that fit into some bytes together. -/
def takeSize : (bytes : Nat) → List Char → List Char
  | _, [] => []
  | bytes, c :: rest => if c.utf8Size ≤ bytes then c :: takeSize (bytes - c.utf8Size) rest else []

theorem size_takeSize_le (bytes : Nat) (chars : List Char) :
    size (takeSize bytes chars) ≤ bytes := by
  induction chars generalizing bytes with
  | nil => simp [takeSize, size]
  | cons c rest inductionHypothesis =>
    rw [takeSize]
    split
    · have others := inductionHypothesis (bytes - c.utf8Size)
      simp only [size]
      omega
    · simp [size]

theorem takeSize_of_size_le {bytes : Nat} {chars : List Char} (fits : size chars ≤ bytes) :
    takeSize bytes chars = chars := by
  induction chars generalizing bytes with
  | nil => rfl
  | cons c rest inductionHypothesis =>
    simp only [size] at fits
    rw [takeSize, if_pos (by omega), inductionHypothesis (by omega)]

end ReleaseUpload.Text
