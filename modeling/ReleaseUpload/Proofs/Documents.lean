import Mathlib.Algebra.Ring.Nat
import ReleaseUpload.Identifier.Reading
import ReleaseUpload.Proofs.Json.Values
import ReleaseUpload.Settings.Document
import ReleaseUpload.UploadSession.Status

/-!
Documents that go over the wire. Whatever is written as a document, be it a status, a declaration,
the settings, a token or an identifier, is read from it again and comes out as it went in.
`documents_read_back` says so for all of them; a status, whose instructions can be nested at will,
needs a reader with room for its depth. Decimals are kept as they were written and so make no
exception.
-/

namespace ReleaseUpload

open Json (Node)

/-! Identifiers and tokens. -/

namespace Id

section

variable {widths : List Nat} {digits : List Char}

theorem sum_le_length_drop {width : Nat} (long : (width :: widths).sum ≤ digits.length) :
    widths.sum ≤ (digits.drop width).length := by
  rw [List.sum_cons] at long
  rw [List.length_drop]
  omega

theorem unhyphenate_hyphenate (long : widths.sum ≤ digits.length) :
    unhyphenate widths (hyphenate widths digits) = some digits := by
  induction widths generalizing digits with
  | nil => rfl
  | cons width widths inductionHypothesis =>
    have left := sum_le_length_drop long
    have taken : (digits.take width).length = width := by
      rw [List.sum_cons] at long
      exact List.length_take_of_le (by omega)
    rw [hyphenate, unhyphenate, List.drop_left' taken, List.take_left' taken]
    simp only [inductionHypothesis left, Option.map_some, List.take_append_drop]

theorem length_hyphenate (long : widths.sum ≤ digits.length) :
    (hyphenate widths digits).length = digits.length + widths.length := by
  induction widths generalizing digits with
  | nil => rfl
  | cons width widths inductionHypothesis =>
    have left := sum_le_length_drop long
    rw [List.sum_cons] at long
    rw [hyphenate, List.length_append, List.length_cons, inductionHypothesis left,
      List.length_take, List.length_drop, List.length_cons]
    omega

end

variable {kind : IdKind}

theorem ofDigits?_digits (bits : BitVec 128) :
    (ofDigits? (Hex.digits 32 bits.toNat) : Option (Id kind)) = some ⟨bits⟩ := by
  have small : bits.toNat < Nat.pow 16 32 := bits.isLt
  rw [ofDigits?, if_pos (Hex.length_digits 32 bits.toNat), Hex.number?_digits 0 32 _ small,
    Option.map_some, Nat.zero_mul, Nat.zero_add, BitVec.ofNat_toNat, BitVec.setWidth_eq]

theorem ofChars?_toChars (id : Id kind) : (ofChars? id.toChars : Option (Id kind)) = some id := by
  have long : groupWidths.sum ≤ (Hex.digits 32 id.bits.toNat).length := by
    rw [Hex.length_digits]
    decide
  have length : id.toChars.length = 36 := by
    rw [toChars, length_hyphenate long, Hex.length_digits]
    rfl
  -- With its hyphens the written form is too long to be taken for bare digits.
  have bare : (ofDigits? id.toChars : Option (Id kind)) = none := by
    rw [ofDigits?, length, if_neg (by decide)]
  have hyphenated : (ofHyphenated? id.toChars : Option (Id kind)) = some id := by
    rw [ofHyphenated?, toChars, unhyphenate_hyphenate long, Option.bind_some, ofDigits?_digits]
  simp only [ofChars?, bare, hyphenated, Option.orElse_eq_orElse, Option.orElse_none,
    Option.orElse_some]

theorem ofNode?_toNode (id : Id kind) : (ofNode? id.toNode : Option (Id kind)) = some id := by
  rw [ofNode?, toNode, Node.string?_ofString, Option.bind_some, toString, String.toList_ofList,
    ofChars?_toChars]

end Id

theorem Token.ofNode?_toNode (token : Token) : ofNode? token.toNode = some token := by
  have bytes : token.toNode.listOf? (·.byte?) = some token.bytes :=
    Node.listOf?_list fun byte _ => Node.byte?_ofNat byte
  rw [ofNode?, bytes, Option.bind_some, dif_pos token.length_bytes]

/-! Declarations and settings. -/

theorem FileUpload.Declaration.ofNode?_toNode (declaration : Declaration) :
    ofNode? declaration.toNode = some declaration := by
  have hashes : (hashesNode declaration.hashes).dictionaryOf? (·.string?) =
      some declaration.hashes :=
    Node.dictionaryOf?_ofFields fun entry _ => Node.string?_ofString entry.2
  rw [ofNode?, toNode, Node.fields?_bind (by simp)]
  simp only [Dictionary.lookup_cons_eq, String.reduceEq, reduceIte, Node.required?, Node.optional?,
    Node.string?_ofString, Node.uint64?_ofNat, hashes, Option.bind_eq_bind, Option.bind_some,
    Option.pure_def]

theorem UploadSettings.ofNode?_toNode (settings : UploadSettings) :
    ofNode? settings.toNode = some settings := by
  rw [ofNode?, toNode, Node.fields?_bind (by simp [keys, Key.name])]
  simp only [keys, List.map_cons, List.map_nil, Key.name, get, Dictionary.lookup_cons_eq,
    String.reduceEq, reduceIte, Node.optional?, Node.uint64?_ofNat, Option.bind_eq_bind,
    Option.bind_some, Option.pure_def]

theorem MechanismSettings.ofNode?_toNode (settings : MechanismSettings) :
    ofNode? settings.toNode = some settings := by
  rw [ofNode?, toNode, Node.fields?_bind (by simp)]
  simp only [Dictionary.lookup_cons_eq, String.reduceEq, reduceIte, Node.optional?,
    Node.texts_read, Node.string?_ofString, Option.bind_eq_bind, Option.bind_some, Option.pure_def]

theorem ReaperSettings.ofNode?_toNode (settings : ReaperSettings) :
    ofNode? settings.toNode = some settings := by
  rw [ofNode?, toNode, Node.fields?_bind (by simp [Key.name])]
  simp only [Key.name, Dictionary.lookup_cons_eq, String.reduceEq, reduceIte, Node.optional?,
    Node.uint64?_ofNat, Node.uint32?_ofNat, Node.bool?_bool, Option.bind_eq_bind, Option.bind_some,
    Option.pure_def]

theorem Settings.ofNode?_toNode (settings : Settings) :
    ofNode? settings.toNode = some settings := by
  rw [ofNode?, toNode, Node.fields?_bind (by simp)]
  simp only [Dictionary.lookup_cons_eq, String.reduceEq, reduceIte, Node.optional?,
    UploadSettings.ofNode?_toNode, MechanismSettings.ofNode?_toNode,
    ReaperSettings.ofNode?_toNode, Option.bind_eq_bind, Option.bind_some, Option.pure_def]

/-! Statuses. -/

theorem FileUpload.State.ofNode?_toNode (state : State) : ofNode? state.toNode = some state :=
  ofName?_name state

theorem UploadSession.State.ofNode?_toNode (state : State) : ofNode? state.toNode = some state :=
  ofName?_name state

theorem FileUpload.Status.ofNode?_toNode (status : Status) (room : Nat)
    (shallow : status.toNode.depth ≤ room) : ofNode? room status.toNode = some status := by
  have mechanism := Node.dictionary_read Json.Record.ofNode?_toNode
    (List.mem_of_getElem? (i := 1) rfl) shallow
  rw [ofNode?, toNode, Node.fields?_bind (by simp)]
  simp only [Dictionary.lookup_cons_eq, String.reduceEq, reduceIte, Node.required?,
    Node.int64?_ofInt, mechanism, State.ofNode?_toNode, Option.bind_eq_bind, Option.bind_some,
    Option.pure_def]

theorem UploadSession.Status.ofNode?_toNode (status : Status) (room : Nat)
    (shallow : status.toNode.depth ≤ room) : ofNode? room status.toNode = some status := by
  have files := Node.dictionary_read FileUpload.Status.ofNode?_toNode
    (List.mem_of_getElem? (i := 3) rfl) shallow
  rw [ofNode?, toNode, Node.fields?_bind (by simp)]
  simp only [Dictionary.lookup_cons_eq, String.reduceEq, reduceIte, Node.required?, textsNode,
    Node.texts_read, Node.string?_ofString, Node.int64?_ofInt, files, State.ofNode?_toNode,
    Option.bind_eq_bind, Option.bind_some, Option.pure_def]

/-- Every document that is written is read again as the value that it was written for. A reader of
statuses has to have room for as many lists and records inside one another as there are. -/
theorem documents_read_back :
    (∀ (status : UploadSession.Status) (room : Nat), status.toNode.depth ≤ room →
      UploadSession.Status.ofNode? room status.toNode = some status) ∧
    (∀ (status : FileUpload.Status) (room : Nat), status.toNode.depth ≤ room →
      FileUpload.Status.ofNode? room status.toNode = some status) ∧
    (∀ declaration : FileUpload.Declaration,
      FileUpload.Declaration.ofNode? declaration.toNode = some declaration) ∧
    (∀ settings : Settings, Settings.ofNode? settings.toNode = some settings) ∧
    (∀ token : Token, Token.ofNode? token.toNode = some token) ∧
    ∀ (kind : IdKind) (id : Id kind), Id.ofNode? id.toNode = some id :=
  ⟨UploadSession.Status.ofNode?_toNode, FileUpload.Status.ofNode?_toNode,
    FileUpload.Declaration.ofNode?_toNode, Settings.ofNode?_toNode, Token.ofNode?_toNode,
    fun _ => Id.ofNode?_toNode⟩

/-- Instructions for an upload in parts, with the largest and the least of integers. -/
def partedInstructions : Instructions where
  fields := ⟨[
    ("headers", .record [("x-part", .null)]),
    ("sizes", .list [.integer 18446744073709551615, .integer (-9223372036854775808)])], by decide⟩
  canonical := by
    simp [Json.Value.Canonical, Json.Value.CanonicalFields, Json.Value.CanonicalItems,
      Json.largestUnsigned, Json.largestDeficit]

def partedFile : FileUpload.Status where
  validFor := 9223372036854775807
  mechanism := .singleton "parts" partedInstructions
  status := .processing

def partedSession : UploadSession.Status where
  mechanisms := ["http-post-application-octet-stream", "parts"]
  token := "ab"
  validFor := -9223372036854775808
  files := .singleton "demo-1.0.tar.gz" partedFile
  notices := ["checksum mismatch"]
  status := .error

/-- Within the depth that documents may have. -/
theorem partedSession_read_back :
    partedSession.toNode.depth = 6 ∧ partedFile.toNode.depth = 4 ∧
      UploadSession.Status.ofNode? 127 partedSession.toNode = some partedSession ∧
      FileUpload.Status.ofNode? 127 partedFile.toNode = some partedFile := by
  obtain ⟨sessions, files, -⟩ := documents_read_back
  have depth : partedSession.toNode.depth = 6 := by decide
  have fileDepth : partedFile.toNode.depth = 4 := by decide
  exact ⟨depth, fileDepth, sessions partedSession 127 (by omega), files partedFile 127 (by omega)⟩

end ReleaseUpload
