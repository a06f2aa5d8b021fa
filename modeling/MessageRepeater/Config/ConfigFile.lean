import MessageRepeater.Config.LoadRepeaterConfig
import MessageRepeater.Json.RoundTrip

/-!
# The configuration file

`load_config_file` of `src/config/config.cpp`: the bytes of the file as a C string, read by the JSON reader.
What `parse` returns is ignored; only an exception makes the loader fail. A file that was cut off is therefore
loaded with what stands in front of the cut.
-/

namespace MessageRepeater.Config
open Foundation Json

/-- The document of a file, `none` if the file cannot be opened or the reader throws. -/
def loadConfigFile (readDouble : ReadDouble) (inputfile : Option Bytes) : Option Value :=
  match inputfile with
  | none => none
  | some bytes =>
    match parse readDouble (cString (bytes ++ [0])) .null with
    | .ok (doc, _) => some doc
    | .error _ => none

/-- The loader, given the file. -/
def loadRepeaterConfigFile (readDouble : ReadDouble) (inputfile : Option Bytes) :
    Except Bytes (Option LoadedConfig) :=
  loadRepeaterConfig (loadConfigFile readDouble inputfile)

/-- A file as the library's writer lays it out, up to the comma behind some of its members, and white space. -/
def cutConfig (members : List (Bytes × Value)) (spaces : Bytes) : Bytes :=
  123 :: writeMembers [9] members ++ 44 :: spaces

section Cut
variable {readDouble : ReadDouble} {members : List (Bytes × Value)} {spaces : Bytes}

theorem blank_tab : Blank [9] := by
  intro c member
  rw [List.mem_singleton.mp member]
  rfl

theorem nonzero_of_blank (blank : Blank spaces) : (0 : UInt8) ∉ spaces := by
  intro zero
  exact absurd (blank 0 zero) (by decide)

theorem cutConfig_nonzero (rereads : RereadsDoubles readDouble readDouble) {good : Bytes → Prop}
    (canonical : Canonical readDouble good stackLimit (.object members)) (blank : Blank spaces) :
    (0 : UInt8) ∉ cutConfig members spaces := by
  cases canonical with
  | object _ _ values =>
    have tab : (0 : UInt8) ∉ ([9] : Bytes) := by decide
    have written := writeMembers_nonzero tab fun member mem =>
      writeValue_nonzero rereads (values member mem) tab false
    simp only [cutConfig, List.cons_append, List.mem_cons, List.mem_append, not_or]
    exact ⟨by decide, written, by decide, nonzero_of_blank blank⟩

/-- The reader refuses the text, and leaves the members. -/
theorem parse_cutConfig (rereads : RereadsDoubles readDouble readDouble) (nonempty : members ≠ [])
    (canonical : Canonical readDouble (Utf8 Portable) stackLimit (.object members)) (blank : Blank spaces)
    (root : Value) : parse readDouble (cutConfig members spaces) root = .ok (.object members, false) := by
  have opening : skipCommentTokens (cutConfig members spaces) =
      { type := .objectBegin, rest := writeMembers [9] members ++ 44 :: spaces } :=
    skipCommentTokens_at rfl rfl (by simp)
  have ending : skipCommentTokens spaces = { type := .endOfStream, rest := [] } := by
    rw [← List.append_nil spaces, skipCommentTokens_blank blank]
    rfl
  obtain ⟨levels, limit⟩ : ∃ levels, stackLimit = levels + 1 := Nat.exists_eq_add_of_le' (by decide)
  rw [limit] at canonical
  have forward : Forward (readValue readDouble levels) := readValue_forward readDouble levels
  have shrinks : Shrinks _ (memberTurn (readValue readDouble levels)) := memberTurn_shrinks forward
  have read : readObject (readValue readDouble levels) (writeMembers [9] members ++ 44 :: spaces) =
      .ok (members, none) := by
    cases canonical with
    | object sorted names values =>
      obtain ⟨last, goesOn⟩ := loop_members_cut forward (readValue_blank readDouble levels) blank_tab spaces nonempty
        (fun member mem =>
          ⟨decode_quoteChars (names member mem), readValue_back rereads (values member mem) blank_tab false⟩)
        [] [] sorted
      rw [readObject, goesOn]
      apply loop_ends shrinks
      simp [memberTurn, ending]
  rw [parse, limit, readValue]
  simp only [opening, read]
  rfl

/-- A file that was cut off behind a comma is loaded as the document that ends there: the members behind the
cut are missing ones, and the loader says nothing. -/
theorem loadRepeaterConfigFile_cut (rereads : RereadsDoubles readDouble readDouble) (nonempty : members ≠ [])
    (canonical : Canonical readDouble (Utf8 Portable) stackLimit (.object members)) (blank : Blank spaces) :
    (parse readDouble (cutConfig members spaces) .null).map Prod.snd = .ok false ∧
      loadRepeaterConfigFile readDouble (some (cutConfig members spaces)) =
        loadRepeaterConfigFile readDouble (some (writeString (.object members))) := by
  have refused := parse_cutConfig rereads nonempty canonical blank .null
  have whole := parse_writeString rereads canonical .null
  have cutText : cString (cutConfig members spaces ++ [0]) = cutConfig members spaces := by
    rw [cString_append_nul]
    exact cString_eq_self.mpr (cutConfig_nonzero rereads canonical blank)
  have wholeText : cString (writeString (.object members) ++ [0]) = writeString (.object members) := by
    rw [cString_append_nul]
    exact cString_eq_self.mpr (writeValue_nonzero rereads canonical List.not_mem_nil true)
  refine ⟨by rw [refused]; rfl, ?_⟩
  simp only [loadRepeaterConfigFile, loadConfigFile, cutText, wholeText, refused, whole]

end Cut

/-- A file that ends behind its second line. -/
theorem loadRepeaterConfigFile_cut_line :
    let members := [(ascii "max_connection_idle_second", .real (some (1 / 2)) (ascii "0.5")),
      (ascii "tg_chat_id", .int 7)]
    (parse readHalf (cutConfig members [10]) .null).map Prod.snd = .ok false ∧
      loadRepeaterConfigFile readHalf (some (cutConfig members [10])) =
        loadRepeaterConfigFile readHalf (some (writeString (.object members))) := by
  have idle : Utf8 Portable (ascii "max_connection_idle_second") :=
    ⟨[109, 97, 120, 95, 99, 111, 110, 110, 101, 99, 116, 105, 111, 110, 95, 105, 100, 108, 101, 95, 115, 101, 99,
      111, 110, 100], by decide, by decide⟩
  have chat : Utf8 Portable (ascii "tg_chat_id") :=
    ⟨[116, 103, 95, 99, 104, 97, 116, 95, 105, 100], by decide, by decide⟩
  have half : readHalf (ascii "0.50") = some (some (1 / 2), ascii "0.5") := rfl
  apply loadRepeaterConfigFile_cut readHalf_rereads (by simp)
  · refine .object (by decide +kernel) ?_ ?_
    · simp only [List.forall_mem_cons]
      exact ⟨idle, chat, by simp⟩
    · simp only [List.forall_mem_cons]
      exact ⟨.real half, .int (by decide) (by decide), by simp⟩
  · intro c member
    rw [List.mem_singleton.mp member]
    rfl

end MessageRepeater.Config
