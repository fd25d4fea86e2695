/-
QsoRipper/Win32/CommandLine.lean

The command lines with which the Win32 client saves a contact through the command line
tool.

Every writer appends its text as far as the buffer has room (`Writes`).  What a window that
is reached can hold is far below that room, so the tool that is started finds exactly the
arguments that are meant, whatever was typed (`wndProc_commandLine`).
-/
import QsoRipper.Lib.CommandLine
import QsoRipper.Win32.Inherit
import QsoRipper.Win32.Typing

namespace QsoRipper.Win32

open CommandLine (quote backslash escape IsPlain Piece)

/-! ### Writing into a buffer -/

/-- `safe_strcat`. -/
def safeStrcat (size : ℕ) (dst src : CString) : CString :=
  let avail := size - dst.length
  if avail ≤ 1 then dst else dst ++ safeStrcpy avail src

/-- One byte of the loops of `AppendArg`. -/
def putByte (cmdSize : ℕ) (cmd : CString) (c : UInt8) : CString :=
  if cmd.length + 1 < cmdSize then cmd ++ [c] else cmd

/-- The loop of `AppendArg` over the value, behind so many backslashes. -/
def appendEscaped (cmdSize numBs : ℕ) (cmd : CString) : CString → CString
  | [] => (List.replicate (numBs * 2) backslash).foldl (putByte cmdSize) cmd
  | c :: s =>
      if c = backslash then appendEscaped cmdSize (numBs + 1) cmd s
      else if c = quote then
        let cmd := (List.replicate (numBs * 2 + 1) backslash).foldl (putByte cmdSize) cmd
        appendEscaped cmdSize 0 (putByte cmdSize cmd quote) s
      else
        let cmd := (List.replicate numBs backslash).foldl (putByte cmdSize) cmd
        appendEscaped cmdSize 0 (putByte cmdSize cmd c) s

/-- `AppendArg`. -/
def appendArg (cmdSize : ℕ) (cmd : CString) (flag : String) (val : CString) : CString :=
  if val = [] then cmd
  else
    let cmd := safeStrcat cmdSize cmd (lit " ")
    let cmd := safeStrcat cmdSize cmd (lit flag)
    let cmd := safeStrcat cmdSize cmd (lit " \"")
    let cmd := appendEscaped cmdSize 0 cmd val
    safeStrcat cmdSize cmd (lit "\"")

/-- What the command of `LogQso` begins with, for a new contact or for one that is changed. -/
def commandStart : Option CString → CString
  | some id => lit "update --id \"" ++ id ++ lit "\""
  | none => lit "log"

/-- The command of `LogQso`. -/
def logCommand (editingLocalId : Option CString) (arguments : List (String × CString)) :
    CString :=
  let cmd := safeStrcpy 4096 (commandStart editingLocalId)
  let cmd := arguments.foldl (fun cmd argument => appendArg 4096 cmd argument.1 argument.2) cmd
  safeStrcat 4096 cmd (lit " --json")

/-- The command line that `RunQrCommand` starts. -/
def qrCommandLine (cliPath args : CString) : CString :=
  lit "\"" ++ cliPath ++ lit "\" " ++ args

/-- The contact that a request saves through the tool: the one that is changed, if it is one,
and the arguments. -/
def Request.saved : Request → Option (Option CString × List (String × CString))
  | .cliLog arguments => some (none, arguments)
  | .cliUpdate id arguments => some (some id, arguments)
  | _ => none

/-! ### What a writer appends -/

/-- It appends this text, as far as the buffer has room for it and its end. -/
def Writes (size : ℕ) (write : CString → CString) (text : CString) : Prop :=
  ∀ cmd : CString, cmd.length ≤ size - 1 → write cmd = (cmd ++ text).take (size - 1)

/-- What is cut off first is not missed behind the same cut. -/
theorem take_take_append (n : ℕ) (l m : CString) : (l.take n ++ m).take n = (l ++ m).take n := by
  by_cases hle : l.length ≤ n
  · rw [List.take_of_length_le hle]
  · have hlength : (l.take n).length = n := List.length_take_of_le (by omega)
    have hfull : n - l.length = 0 := by omega
    rw [List.take_append, List.take_append, hlength, Nat.sub_self, hfull, List.take_zero,
      List.take_take, Nat.min_self]

namespace Writes

variable {size : ℕ} {write next : CString → CString} {text more : CString}

theorem id : Writes size (fun cmd => cmd) [] := by
  intro cmd hcmd
  show cmd = _
  rw [List.append_nil, List.take_of_length_le hcmd]

theorem comp (h : Writes size write text) (hnext : Writes size next more) :
    Writes size (fun cmd => next (write cmd)) (text ++ more) := by
  intro cmd hcmd
  have hfit : (write cmd).length ≤ size - 1 := by
    rw [h cmd hcmd]
    exact List.length_take_le _ _
  show next (write cmd) = _
  rw [hnext _ hfit, h cmd hcmd, take_take_append, List.append_assoc]

/-- With room for all of it, all of it is there. -/
theorem eq_append (h : Writes size write text) {cmd : CString}
    (hroom : (cmd ++ text).length ≤ size - 1) : write cmd = cmd ++ text := by
  have hcmd : cmd.length ≤ size - 1 := by
    rw [List.length_append] at hroom
    omega
  rw [h cmd hcmd, List.take_of_length_le hroom]

end Writes

variable {size : ℕ}

theorem safeStrcat_writes (src : CString) :
    Writes size (fun dst => safeStrcat size dst src) src := by
  intro dst hdst
  show safeStrcat size dst src = _
  rw [safeStrcat, List.take_append, List.take_of_length_le hdst]
  split_ifs with hfull
  · have hnone : size - 1 - dst.length = 0 := by omega
    rw [hnone, List.take_zero, List.append_nil]
  · rw [safeStrcpy, Nat.sub_right_comm]

theorem putByte_writes (c : UInt8) : Writes size (fun cmd => putByte size cmd c) [c] := by
  intro cmd hcmd
  show putByte size cmd c = _
  rw [putByte, List.take_append, List.take_of_length_le hcmd]
  split_ifs with hroom
  · rw [List.take_of_length_le]
    show 1 ≤ _
    omega
  · have hnone : size - 1 - cmd.length = 0 := by omega
    rw [hnone, List.take_zero, List.append_nil]

theorem putBytes_writes (text : CString) :
    Writes size (fun cmd => text.foldl (putByte size) cmd) text := by
  induction text with
  | nil => exact Writes.id
  | cons c text ih => exact (putByte_writes c).comp ih

/-- The loop writes the escaped value. -/
theorem appendEscaped_writes (val : CString) (numBs : ℕ) :
    Writes size (fun cmd => appendEscaped size numBs cmd val) (escape numBs val) := by
  induction val generalizing numBs with
  | nil =>
      rw [escape, Nat.mul_comm]
      exact putBytes_writes (List.replicate (numBs * 2) backslash)
  | cons c val ih =>
      simp only [appendEscaped, escape]
      split_ifs with hbackslash hquote
      · exact ih (numBs + 1)
      · rw [Nat.mul_comm]
        exact (putBytes_writes _).comp ((putByte_writes quote).comp (ih 0))
      · exact (putBytes_writes _).comp ((putByte_writes c).comp (ih 0))

/-- The text of an argument. -/
def argumentText (argument : String × CString) : CString :=
  lit " " ++ (lit argument.1 ++ (lit " \"" ++ (escape 0 argument.2 ++ lit "\"")))

theorem appendArg_writes {argument : String × CString} (h : argument.2 ≠ []) :
    Writes size (fun cmd => appendArg size cmd argument.1 argument.2) (argumentText argument) := by
  simp only [appendArg, if_neg h]
  exact (safeStrcat_writes _).comp ((safeStrcat_writes _).comp ((safeStrcat_writes _).comp
    ((appendEscaped_writes _ 0).comp (safeStrcat_writes _))))

theorem appendArgs_writes (size : ℕ) {arguments : List (String × CString)}
    (h : ∀ argument ∈ arguments, argument.2 ≠ []) :
    Writes size
      (fun cmd => arguments.foldl (fun cmd argument => appendArg size cmd argument.1 argument.2) cmd)
      (arguments.flatMap argumentText) := by
  induction arguments with
  | nil => exact Writes.id
  | cons argument arguments ih =>
      exact (appendArg_writes (h argument List.mem_cons_self)).comp
        (ih fun argument' hin => h argument' (List.mem_cons_of_mem argument hin))

/-! ### The id of the contact that is changed -/

namespace Form

variable (form : Form)

@[simp] theorem editingLocalId_touch (f : Field) :
    (form.touch f).editingLocalId = form.editingLocalId := by
  rw [touch]
  split_ifs <;> rfl

@[simp] theorem editingLocalId_write (f : Field) (text : CString) :
    (form.write f text).editingLocalId = form.editingLocalId := rfl

@[simp] theorem editingLocalId_setCursor (f : Field) (pos : ℕ) :
    (form.setCursor f pos).editingLocalId = form.editingLocalId := rfl

@[simp] theorem editingLocalId_setCurrentDateTime (now : SystemTime) :
    (form.setCurrentDateTime now).editingLocalId = form.editingLocalId := rfl

@[simp] theorem editingLocalId_eraseSelected (f : Field) :
    (form.eraseSelected f).editingLocalId = form.editingLocalId := rfl

@[simp] theorem editingLocalId_insertChar (now : SystemTime) (f : Field) (c : UInt8) :
    (form.insertChar now f c).editingLocalId = form.editingLocalId := by
  have htouch := form.editingLocalId_touch f
  unfold insertChar
  dsimp only
  generalize form.touch f = touched at htouch ⊢
  split_ifs <;> simp only [editingLocalId_setCursor, editingLocalId_write,
    editingLocalId_eraseSelected, editingLocalId_setCurrentDateTime, htouch]

@[simp] theorem editingLocalId_deleteChar (f : Field) :
    (form.deleteChar f).editingLocalId = form.editingLocalId := by
  have htouch := form.editingLocalId_touch f
  unfold deleteChar
  dsimp only
  generalize form.touch f = touched at htouch ⊢
  split_ifs <;> simp only [editingLocalId_setCursor, editingLocalId_write,
    editingLocalId_eraseSelected, htouch]

@[simp] theorem editingLocalId_typeSelectBand (c : UInt8) :
    (form.typeSelectBand c).editingLocalId = form.editingLocalId := by
  rw [typeSelectBand]
  cases typeSelect bands c form.bandIdx <;> rfl

@[simp] theorem editingLocalId_typeSelectMode (c : UInt8) :
    (form.typeSelectMode c).editingLocalId = form.editingLocalId := by
  rw [typeSelectMode]
  cases typeSelect modes c form.modeIdx <;> rfl

@[simp] theorem editingLocalId_fill (f : Field) (src : CString) :
    (form.fill f src).editingLocalId = form.editingLocalId := rfl

@[simp] theorem editingLocalId_applyLookupResult (res : LookupResultMsg) :
    (form.applyLookupResult res).editingLocalId = form.editingLocalId := by
  unfold applyLookupResult
  generalize (if 0 < res.cqZone then lit (toString res.cqZone) else []) = zone
  split_ifs
  · rfl
  · simp only [editingLocalId_fill]
  · rfl

@[simp] theorem editingLocalId_applyRigPollResult (res : RigPollResult) :
    (form.applyRigPollResult res).editingLocalId = form.editingLocalId := by
  have hmode (form : Form) (mode : Option (Fin 8)) :
      (mode.elim form form.setMode).editingLocalId = form.editingLocalId := by
    cases mode <;> rfl
  unfold applyRigPollResult
  dsimp only
  split_ifs
  · rfl
  · rfl
  · rfl
  · exact hmode _ _
  · exact hmode _ _

theorem editingLocalId_foldl_cursorToEnd (fields : List Field) :
    (fields.foldl cursorToEnd form).editingLocalId = form.editingLocalId := by
  induction fields generalizing form with
  | nil => rfl
  | cons f fields ih => exact ih (form.cursorToEnd f)

theorem editingLocalId_applyLoadedQsoDetail (frequencies : Frequencies) (now : SystemTime)
    (loadedId : CString) (detail : QsrQsoDetail) :
    (form.applyLoadedQsoDetail frequencies now loadedId detail).editingLocalId
      = safeStrcpy 64 loadedId := by
  unfold applyLoadedQsoDetail
  extract_lets _ _ _ _ _ _ _ loaded shown
  have hshown : (shown.foldl cursorToEnd loaded).editingLocalId = loaded.editingLocalId :=
    editingLocalId_foldl_cursorToEnd loaded shown
  exact hshown

end Form

namespace AppState

variable {frequencies : Frequencies} {backend : BackendMode} {answers : Answers} {s : AppState}

/-- The id fits its buffer. -/
def IdFits (s : AppState) : Prop := s.form.editingLocalId.length ≤ 63

theorem idFits_loaded (s : AppState) (localId : CString) (detail : QsrQsoDetail) :
    (s.applyLoadedQsoDetail frequencies answers localId detail).IdFits := by
  show (Form.editingLocalId _).length ≤ 63
  rw [applyLoadedQsoDetail, Form.editingLocalId_applyLoadedQsoDetail]
  exact List.length_take_le _ _

theorem IdFits.loadSelectedQso (h : s.IdFits) :
    (s.loadSelectedQso frequencies answers).1.IdFits := by
  unfold AppState.loadSelectedQso
  cases s.list.selectedRow with
  | none => exact h
  | some q =>
      dsimp only
      by_cases hid : q.localId = []
      · rw [if_pos hid]
        exact h
      · rw [if_neg hid]
        cases s.backend with
        | ffi =>
            dsimp only
            split_ifs <;> exact h
        | cli =>
            dsimp only
            split_ifs
            · exact idFits_loaded s _ _
            · exact h

theorem IdFits.deleteSelectedQso (h : s.IdFits) : (s.deleteSelectedQso answers).1.IdFits := by
  unfold AppState.deleteSelectedQso
  cases s.list.selectedRow with
  | none => exact h
  | some q =>
      dsimp only
      by_cases hid : q.localId = []
      · rw [if_pos hid]
        exact h
      · rw [if_neg hid]
        cases s.backend with
        | ffi =>
            dsimp only
            split_ifs <;> exact h
        | cli => exact h

theorem IdFits.logQso (h : s.IdFits) : (s.logQso frequencies answers).1.IdFits := by
  unfold AppState.logQso
  split_ifs with hcallsign
  · exact h
  · dsimp only
    cases s.backend with
    | ffi =>
        dsimp only
        split_ifs <;> exact h
    | cli => exact Nat.zero_le _

theorem IdFits.focusBasic (h : s.IdFits) : s.focusBasic.IdFits := by
  unfold AppState.focusBasic
  split_ifs <;> exact h

theorem IdFits.toggleAdvancedView (h : s.IdFits) :
    (s.toggleAdvancedView frequencies answers).1.IdFits := by
  unfold AppState.toggleAdvancedView
  split_ifs
  · exact IdFits.loadSelectedQso (s := { s.focusForm with
      panes := { s.focusForm.panes with advancedView := true, advancedTab := 0 } }) h
  · dsimp only
    split_ifs
    · cases advTabForField s.focusForm.form.focusedField <;> exact h
    · exact IdFits.focusBasic h

theorem IdFits.globalKey (h : s.IdFits) {press : KeyPress} {result : AppState × Option Request}
    (hkey : s.globalKey frequencies answers press = some result) : result.1.IdFits := by
  unfold AppState.globalKey at hkey
  split at hkey
  case h_3 =>
    cases hkey
    exact h.toggleAdvancedView
  case h_11 =>
    cases hkey
    exact h.logQso
  case h_12 =>
    split_ifs at hkey
    cases hkey
    exact h.logQso
  all_goals
    try split_ifs at hkey
    all_goals
      cases hkey
      try exact h

theorem IdFits.altKey (h : s.IdFits) {press : KeyPress} {t : AppState}
    (hkey : s.altKey press = some t) : t.IdFits := by
  unfold AppState.altKey at hkey
  by_cases hno : (!press.alt || press.ctrl) = true
  · rw [if_pos hno] at hkey
    cases hkey
  · rw [if_neg hno] at hkey
    split at hkey
    · split_ifs at hkey
      cases hkey
      exact h
    · obtain ⟨target, -, rfl⟩ := Option.map_eq_some_iff.mp hkey
      exact h
    · cases hkey

theorem IdFits.listKey (h : s.IdFits) (vk : Key) :
    (s.listKey frequencies answers vk).1.IdFits := by
  unfold AppState.listKey
  dsimp only
  split
  case h_6 => exact h.loadSelectedQso
  all_goals
    try split_ifs
    all_goals exact h

theorem IdFits.listEndKey (h : s.IdFits) {press : KeyPress} {t : AppState}
    (hkey : s.listEndKey press = some t) : t.IdFits := by
  unfold AppState.listEndKey at hkey
  split at hkey
  all_goals
    try split_ifs at hkey
    all_goals
      cases hkey
      try exact h

theorem IdFits.searchKey (h : s.IdFits) (vk : Key) : (s.searchKey vk).IdFits := by
  unfold AppState.searchKey
  split <;> exact h

theorem IdFits.formKey (h : s.IdFits) (press : KeyPress) : (s.formKey answers press).IdFits := by
  unfold AppState.formKey
  dsimp only
  split
  case h_1 =>
    split_ifs
    · exact IdFits.focusBasic h
    · exact Nat.zero_le _
  case h_5 =>
    split_ifs
    · show (Form.editingLocalId _).length ≤ 63
      simpa [Form.clearLookupDisplay, IdFits] using h
    · show (Form.editingLocalId _).length ≤ 63
      simpa [IdFits] using h
    · exact h
  all_goals
    try split_ifs
    all_goals exact h

theorem IdFits.onKeyDown (h : s.IdFits) (press : KeyPress) :
    (s.onKeyDown frequencies answers press).1.IdFits := by
  unfold AppState.onKeyDown
  by_cases hconfirm : s.panes.confirmDeleteVisible = true
  · rw [if_pos hconfirm]
    split_ifs
    · exact h.deleteSelectedQso
    · exact h
  rw [if_neg hconfirm]
  by_cases hhelp : s.panes.helpVisible = true
  · rw [if_pos hhelp]
    split_ifs <;> exact h
  rw [if_neg hhelp]
  cases hglobal : s.globalKey frequencies answers press with
  | some result => exact h.globalKey hglobal
  | none =>
      dsimp only
      cases halt : s.altKey press with
      | some t => exact h.altKey halt
      | none =>
          dsimp only
          by_cases hsearch : s.panes.searchFocused = true
          · rw [if_pos hsearch]
            exact h.searchKey _
          rw [if_neg hsearch]
          by_cases hlist : s.panes.qsoListFocused = true
          · rw [if_pos hlist]
            cases hend : s.listEndKey press with
            | some t => exact h.listEndKey hend
            | none => exact h.listKey _
          · rw [if_neg hlist]
            exact h.formKey _

theorem IdFits.onChar (h : s.IdFits) (ch : ℕ) : (s.onChar answers ch).IdFits := by
  unfold AppState.onChar
  split_ifs
  · exact h
  · exact h
  · exact h
  · show (Form.editingLocalId _).length ≤ 63
    dsimp only
    split
    · simpa [IdFits] using h
    · simpa [IdFits] using h
    · simpa [Form.clearLookupDisplay, IdFits] using h
    · simpa [IdFits] using h

theorem IdFits.onClick (h : s.IdFits) (hit : Hit) : (s.onClick hit).IdFits := by
  unfold AppState.onClick
  split
  all_goals
    try dsimp only
    split_ifs
    all_goals exact h

/-- No input makes the id longer than its buffer. -/
theorem IdFits.wndProc (h : s.IdFits) (input : Input) :
    (s.wndProc frequencies answers input).1.IdFits := by
  cases input with
  | key press => exact h.onKeyDown press
  | char ch => exact h.onChar ch
  | click hit => exact h.onClick hit
  | doubleClick row =>
      unfold AppState.wndProc AppState.onDoubleClick
      dsimp only
      split_ifs
      · exact IdFits.loadSelectedQso (s := { s with list := s.list.select row }) h
      · exact h
  | lookupDone res =>
      show (Form.editingLocalId _).length ≤ 63
      simpa [AppState.wndProc, IdFits] using h
  | rigDone res =>
      cases res with
      | none => exact h
      | some res =>
          unfold AppState.wndProc
          dsimp only
          split_ifs
          · show (Form.editingLocalId _).length ≤ 63
            simpa [IdFits] using h
          · exact h
  | logDone _ => exact Nat.zero_le _
  | qsoDetailDone res =>
      cases res with
      | none => exact h
      | some res =>
          unfold AppState.wndProc
          dsimp only
          split_ifs
          · exact idFits_loaded _ _ _
          · exact h
  | _ => exact h

end AppState

theorem Reached.idFits {frequencies : Frequencies} {backend : BackendMode} {s : AppState}
    (h : Reached frequencies backend s) : s.IdFits := by
  induction h with
  | start now => exact Nat.zero_le _
  | step answers input _ ih => exact ih.wndProc input

/-! ### The arguments that the tool finds -/

/-- A text that is a word of its own. -/
def IsWord (word : CString) : Prop := word ≠ [] ∧ ∀ b ∈ word, IsPlain b

instance (word : CString) : Decidable (IsWord word) := inferInstanceAs (Decidable (_ ∧ _))

/-- The two words of an argument. -/
def argumentWords (argument : String × CString) : List CString := [lit argument.1, argument.2]

def startWords : Option CString → List CString
  | some id => [lit "update", lit "--id", id]
  | none => [lit "log"]

/-- The words that the tool is to find. -/
def commandWords (editingLocalId : Option CString) (arguments : List (String × CString)) :
    List CString :=
  startWords editingLocalId ++ (arguments.flatMap argumentWords ++ [lit "--json"])

/-- A letter of a flag: lower case, or the dash. -/
def isFlagChar (c : Char) : Bool := c.toNat == 45 || (97 ≤ c.toNat && c.toNat ≤ 122)

theorem isWord_lit {flag : String} (hsome : flag.toList ≠ [])
    (hchars : flag.toList.all isFlagChar = true) : IsWord (lit flag) := by
  refine ⟨fun hno => hsome (List.map_eq_nil_iff.mp hno), ?_⟩
  intro b hb
  obtain ⟨c, hc, rfl⟩ := List.mem_map.mp hb
  have hchar := List.all_eq_true.mp hchars c hc
  simp only [isFlagChar, Bool.or_eq_true, Bool.and_eq_true, beq_iff_eq, decide_eq_true_eq] at hchar
  have hbyte (n : ℕ) (hn : n < 256) (hne : c.toNat ≠ n) : UInt8.ofNat c.toNat ≠ UInt8.ofNat n := by
    intro heq
    have hnat := congrArg UInt8.toNat heq
    rw [UInt8.toNat_ofNat', UInt8.toNat_ofNat'] at hnat
    omega
  refine ⟨hbyte 34 (by omega) (by omega), hbyte 92 (by omega) (by omega), ?_⟩
  rintro (hspace | htab)
  · exact hbyte 32 (by omega) (by omega) hspace
  · exact hbyte 9 (by omega) (by omega) htab

theorem isWord_log : IsWord (lit "log") := isWord_lit (by simp) (by simp [isFlagChar])

theorem isWord_update : IsWord (lit "update") := isWord_lit (by simp) (by simp [isFlagChar])

theorem isWord_id : IsWord (lit "--id") := isWord_lit (by simp) (by simp [isFlagChar])

theorem isWord_json : IsWord (lit "--json") := isWord_lit (by simp) (by simp [isFlagChar])

/-- A word as it stands in the line. -/
def bareWord (word : CString) (h : IsWord word) : Piece := .bare ⟨word, h⟩

theorem argumentText_joined {argument : String × CString} (h : IsWord (lit argument.1)) :
    argumentText argument
      = CommandLine.joined [bareWord (lit argument.1) h, .escaped argument.2] := by
  show [32] ++ (lit argument.1 ++ ([32, quote] ++ (escape 0 argument.2 ++ [quote]))) = _
  simp [CommandLine.joined, Piece.text, bareWord]

theorem joined_append (pieces more : List Piece) :
    CommandLine.joined (pieces ++ more)
      = CommandLine.joined pieces ++ CommandLine.joined more := List.flatMap_append

/-- The arguments in a row are pieces of the line that mean their words. -/
theorem arguments_joined {arguments : List (String × CString)}
    (h : ∀ argument ∈ arguments, IsWord (lit argument.1)) :
    ∃ pieces, arguments.flatMap argumentText = CommandLine.joined pieces
      ∧ pieces.map Piece.value = arguments.flatMap argumentWords := by
  induction arguments with
  | nil => exact ⟨[], rfl, rfl⟩
  | cons argument arguments ih =>
      obtain ⟨pieces, htext, hvalues⟩ := ih fun a ha => h a (List.mem_cons_of_mem argument ha)
      have hflag := h argument List.mem_cons_self
      refine ⟨[bareWord _ hflag, .escaped argument.2] ++ pieces, ?_, ?_⟩
      · rw [joined_append, List.flatMap_cons, htext, argumentText_joined hflag]
      · rw [List.map_append, hvalues]
        rfl

/-- What an argument takes of the buffer, at most. -/
def argumentCost (argument : String × CString) : ℕ :=
  (lit argument.1).length + 2 * argument.2.length + 4

theorem length_argumentText_le (argument : String × CString) :
    (argumentText argument).length ≤ argumentCost argument := by
  have hescape := CommandLine.length_escape_le 0 argument.2
  have hblank : (lit " ").length = 1 := rfl
  have hopen : (lit " \"").length = 2 := rfl
  have hclose : (lit "\"").length = 1 := rfl
  simp only [argumentText, argumentCost, List.length_append]
  omega

theorem length_argumentTexts_le (arguments : List (String × CString)) :
    (arguments.flatMap argumentText).length ≤ (arguments.map argumentCost).sum := by
  induction arguments with
  | nil => exact Nat.le_refl 0
  | cons argument arguments ih =>
      have hle := length_argumentText_le argument
      rw [List.flatMap_cons, List.length_append, List.map_cons, List.sum_cons]
      exact Nat.add_le_add hle ih

/-- The arguments of a command that fits its buffer, each with a value. -/
structure WellFormed (arguments : List (String × CString)) : Prop where
  values : ∀ argument ∈ arguments, argument.2 ≠ []
  flags : ∀ argument ∈ arguments, IsWord (lit argument.1)
  room : (arguments.map argumentCost).sum ≤ 4000

theorem length_commandStart_le {editingLocalId : Option CString}
    (hid : ∀ id ∈ editingLocalId, id.length ≤ 63) : (commandStart editingLocalId).length ≤ 77 := by
  cases editingLocalId with
  | none => exact Nat.le_of_ble_eq_true rfl
  | some id =>
      have hlength := hid id rfl
      have hopen : (lit "update --id \"").length = 13 := rfl
      have hclose : (lit "\"").length = 1 := rfl
      simp only [commandStart, List.length_append]
      omega

/-- A command with enough room is written whole. -/
theorem logCommand_eq {editingLocalId : Option CString} {arguments : List (String × CString)}
    (h : WellFormed arguments) (hid : ∀ id ∈ editingLocalId, id.length ≤ 63) :
    logCommand editingLocalId arguments
      = commandStart editingLocalId ++ (arguments.flatMap argumentText ++ lit " --json") := by
  have hstart := length_commandStart_le hid
  have htexts := length_argumentTexts_le arguments
  have hroom := h.room
  have hjson : (lit " --json").length = 7 := rfl
  have hwrites := (appendArgs_writes 4096 h.values).comp (safeStrcat_writes (lit " --json"))
  have hwhole : safeStrcpy 4096 (commandStart editingLocalId) = commandStart editingLocalId :=
    List.take_of_length_le (by omega)
  simp only [logCommand, hwhole]
  apply hwrites.eq_append
  simp only [List.length_append]
  omega

/-- The id stands between quotes as it is. -/
theorem commandStart_joined {editingLocalId : Option CString}
    (hid : ∀ id ∈ editingLocalId, quote ∉ id ∧ id.getLast? ≠ some backslash) :
    ∃ pieces, 32 :: commandStart editingLocalId = CommandLine.joined pieces
      ∧ pieces.map Piece.value = startWords editingLocalId := by
  cases editingLocalId with
  | none => exact ⟨[bareWord (lit "log") isWord_log], rfl, rfl⟩
  | some id =>
      refine ⟨[bareWord (lit "update") isWord_update,
        bareWord (lit "--id") isWord_id, .verbatim ⟨id, hid id rfl⟩], ?_, rfl⟩
      show 32 :: (lit "update --id \"" ++ id ++ [quote]) = _
      simp [CommandLine.joined, Piece.text, bareWord]
      rfl

/-- The tool finds the words of a command that fits. -/
theorem arguments_logCommand {editingLocalId : Option CString}
    {arguments : List (String × CString)} (h : WellFormed arguments)
    (hid : ∀ id ∈ editingLocalId,
      id.length ≤ 63 ∧ quote ∉ id ∧ id.getLast? ≠ some backslash)
    {cliPath : CString} (hpath : quote ∉ cliPath) :
    CommandLine.arguments (qrCommandLine cliPath (logCommand editingLocalId arguments))
      = (cliPath, commandWords editingLocalId arguments) := by
  obtain ⟨start, hstart, hstartValues⟩ := commandStart_joined fun id hin => (hid id hin).2
  obtain ⟨pieces, htext, hvalues⟩ := arguments_joined h.flags
  let json := bareWord (lit "--json") isWord_json
  have hjson : lit " --json" = CommandLine.joined [json] := rfl
  have hline : qrCommandLine cliPath (logCommand editingLocalId arguments)
      = quote :: (cliPath ++ quote :: CommandLine.joined (start ++ (pieces ++ [json]))) := by
    rw [joined_append, joined_append, ← hstart, ← htext, ← hjson,
      logCommand_eq h fun id hin => (hid id hin).1]
    show [quote] ++ cliPath ++ [quote, 32] ++ _ = _
    simp
  rw [hline, CommandLine.arguments_joined hpath, List.map_append, List.map_append, hstartValues,
    hvalues]
  rfl

/-! ### The commands of a window -/

section Window

variable {frequencies : Frequencies} {backend : BackendMode} {answers : Answers} {s : AppState}

theorem length_natText_le {n : ℕ} (h : n < 10 ^ 20) : (lit (toString n)).length ≤ 20 := by
  have hdigits := Nat.toDigits_length 10 n 20 (by omega) h
  have htext : (toString n).toList = Nat.toDigits 10 n := Nat.toList_repr
  rw [lit, List.length_map, htext]
  exact hdigits

theorem length_bands_le (i : Fin 13) : (bands i).length ≤ 4 := by
  fin_cases i <;> exact Nat.le_of_ble_eq_true rfl

theorem length_modes_le (i : Fin 8) : (modes i).length ≤ 5 := by
  fin_cases i <;> exact Nat.le_of_ble_eq_true rfl

/-- The flags of `LogQso`. -/
def cliFlags : List String :=
  ["--call", "--band", "--mode", "--datetime", "--rst-sent", "--rst-rcvd", "--freq", "--comment",
    "--notes", "--name", "--power", "--submode", "--contest", "--serial-sent", "--serial-rcvd",
    "--exchange-sent", "--exchange-rcvd", "--prop-mode", "--sat-name", "--sat-mode", "--iota",
    "--arrl-section", "--state", "--county", "--skcc", "--time-off"]

theorem cliFlags_chars :
    cliFlags.all (fun flag => flag.toList.all isFlagChar
      && (0 < flag.toList.length && flag.toList.length ≤ 15)) = true := by
  simp [cliFlags, isFlagChar]

theorem cliFlags_words {flag : String} (h : flag ∈ cliFlags) :
    IsWord (lit flag) ∧ (lit flag).length ≤ 15 := by
  have hflag := List.all_eq_true.mp cliFlags_chars flag h
  simp only [Bool.and_eq_true, decide_eq_true_eq] at hflag
  obtain ⟨hchars, hfirst, hlast⟩ := hflag
  refine ⟨isWord_lit (List.ne_nil_of_length_pos hfirst) hchars, ?_⟩
  rw [lit, List.length_map]
  exact hlast

theorem sum_argumentCost_le {arguments : List (String × CString)} (bounds : List ℕ)
    (h : List.Forall₂ (fun argument bound => argument.2.length ≤ bound) arguments bounds)
    (hflags : ∀ argument ∈ arguments, (lit argument.1).length ≤ 15) :
    (arguments.map argumentCost).sum ≤ 2 * bounds.sum + 19 * bounds.length := by
  induction h with
  | nil => exact Nat.le_refl 0
  | @cons argument bound arguments bounds hvalue _ ih =>
      have hflag := hflags argument List.mem_cons_self
      have hrest := ih fun a ha => hflags a (List.mem_cons_of_mem argument ha)
      simp only [List.map_cons, List.sum_cons, List.length_cons, argumentCost]
      omega

/-- What a form can hold makes a command that fits. -/
theorem cliArguments_wellFormed {form : Form}
    (hfits : ∀ f, (form.buffers f).length ≤ f.size - 1) :
    WellFormed (AppState.cliArguments frequencies form) := by
  have hkhz : (if form.buffers .freq = [] then []
      else lit (toString (frequencies.khz (form.buffers .freq)).toNat)).length ≤ 20 := by
    split_ifs
    · exact Nat.zero_le 20
    · exact length_natText_le ((UInt64.toNat_lt _).trans (by decide))
  have htimeOff : (if form.buffers .timeOff ≠ [] ∧ form.buffers .date ≠ [] then
      safeStrcpy 64 (form.buffers .date ++ lit " " ++ form.buffers .timeOff)
      else []).length ≤ 63 := by
    split_ifs
    · exact List.length_take_le _ _
    · exact Nat.zero_le 63
  refine ⟨?_, ?_, ?_⟩
  · intro argument hin hnone
    have hsome := (List.mem_filter.mp hin).2
    rw [hnone] at hsome
    cases hsome
  · intro argument hin
    have hflag : argument.1 ∈ cliFlags := List.mem_map_of_mem (List.mem_filter.mp hin).1
    exact (cliFlags_words hflag).1
  · refine le_trans (List.Sublist.sum_le_sum (List.filter_sublist.map argumentCost)
      fun _ _ => Nat.zero_le _) ?_
    refine le_trans (sum_argumentCost_le [31, 4, 5, 63, 7, 7, 20, 255, 255, 63, 15, 15,
      31, 15, 15, 63, 63, 15, 31, 15, 15, 15, 15, 31, 15, 63] ?_ ?_) (by decide)
    · refine .cons (hfits .callsign) (.cons (length_bands_le _) (.cons (length_modes_le _)
        (.cons (List.length_take_le _ _) ?_)))
      refine .cons (hfits .rstSent) (.cons (hfits .rstRcvd) (.cons hkhz ?_))
      refine .cons (hfits .comment) (.cons (hfits .notes) (.cons (hfits .workedName) ?_))
      refine .cons (hfits .txPower) (.cons (hfits .submode) (.cons (hfits .contestId) ?_))
      refine .cons (hfits .serialSent) (.cons (hfits .serialRcvd) ?_)
      refine .cons (hfits .exchangeSent) (.cons (hfits .exchangeRcvd) ?_)
      refine .cons (hfits .propMode) (.cons (hfits .satName) (.cons (hfits .satMode) ?_))
      refine .cons (hfits .iota) (.cons (hfits .arrlSection) (.cons (hfits .workedState) ?_))
      exact .cons (hfits .workedCounty) (.cons (hfits .skcc) (.cons htimeOff .nil))
    · intro argument hin
      have hflag : argument.1 ∈ cliFlags := List.mem_map_of_mem hin
      exact (cliFlags_words hflag).2

theorem Form.buffers_copy (form : Form) (f : Field) (src : CString) :
    (form.copy f src).buffers = Function.update form.buffers f (safeStrcpy f.size src) := rfl

theorem startedForm_fits (h : ∀ f, (s.form.buffers f).length ≤ f.size - 1) (now : SystemTime)
    (f : Field) : ((s.startedForm now).buffers f).length ≤ f.size - 1 := by
  rw [AppState.startedForm]
  split_ifs
  · rw [Form.buffers_copy]
    by_cases hf : f = .timeOff
    · rw [hf, Function.update_self]
      exact List.length_take_le _ _
    · rw [Function.update_of_ne hf]
      exact h f
  · exact h f

theorem Request.isCliSave_of_saved {request : Request}
    {contact : Option CString × List (String × CString)} (h : request.saved = some contact) :
    request.isCliSave = true := by
  cases request with
  | cliLog _ => rfl
  | cliUpdate _ _ => rfl
  | _ => cases h

/-- A save through the tool sends the arguments of the form with which it is started. -/
theorem logQso_saved {request : Request} {id : Option CString}
    {arguments : List (String × CString)}
    (hrequest : (s.logQso frequencies answers).2 = some request)
    (hsaved : request.saved = some (id, arguments)) :
    arguments = AppState.cliArguments frequencies (s.startedForm answers.now)
      ∧ ∀ i ∈ id, i = s.form.editingLocalId := by
  have hsave : (s.logQso frequencies answers).2.any Request.isCliSave = true := by
    rw [hrequest]
    exact Request.isCliSave_of_saved hsaved
  obtain ⟨hbackend, hcallsign⟩ := logQso_cliSave hsave
  have hediting : (s.startedForm answers.now).editingLocalId = s.form.editingLocalId := by
    rw [AppState.startedForm]
    split_ifs <;> rfl
  rw [AppState.logQso, if_neg hcallsign] at hrequest
  simp only [not_not, ne_eq, hbackend] at hrequest
  have hform : (if s.form.editingLocalId = [] ∧ s.form.qsoTimerActive ∧ s.form.buffers .timeOff = []
      then s.form.copy .timeOff answers.now.time else s.form) = s.startedForm answers.now := rfl
  rw [hform, hediting] at hrequest
  by_cases hid : s.form.editingLocalId = []
  · rw [if_neg (not_not.mpr hid)] at hrequest
    cases hrequest
    cases hsaved
    exact ⟨rfl, by simp⟩
  · rw [if_pos hid] at hrequest
    cases hrequest
    cases hsaved
    exact ⟨rfl, by simp⟩

/-- A global key that saves does what `LogQso` does. -/
theorem globalKey_logQso {press : KeyPress} {result : AppState × Option Request}
    (hkey : s.globalKey frequencies answers press = some result)
    (h : result.2.any Request.isCliSave = true) : result = s.logQso frequencies answers := by
  unfold AppState.globalKey at hkey
  split at hkey
  case h_3 =>
    cases hkey
    rw [toggleAdvancedView_not_cliSave] at h
    cases h
  case h_11 =>
    cases hkey
    rfl
  case h_12 =>
    split_ifs at hkey
    cases hkey
    rfl
  all_goals
    try split_ifs at hkey
    all_goals cases hkey <;> cases h

/-- What is saved through the tool, `LogQso` saves. -/
theorem wndProc_logQso {input : Input}
    (h : (s.wndProc frequencies answers input).2.any Request.isCliSave = true) :
    s.wndProc frequencies answers input = s.logQso frequencies answers := by
  obtain ⟨press, rfl, -, hconfirm, hhelp, hvk, -⟩ := wndProc_cliSave h
  have hkeys : s.wndProc frequencies answers (.key press) = s.onKeyDown frequencies answers press :=
    rfl
  have hglobal : ∃ result, s.globalKey frequencies answers press = some result := by
    unfold AppState.globalKey
    rcases hvk with hvk | ⟨hvk, hdown⟩
    · rw [hvk]
      exact ⟨_, rfl⟩
    · rw [hvk]
      exact ⟨_, if_pos hdown⟩
  obtain ⟨result, hglobal⟩ := hglobal
  rw [hkeys, AppState.onKeyDown, hconfirm, hhelp, hglobal] at h ⊢
  exact globalKey_logQso hglobal h

/-- In every window that is reached, and whatever was typed into it: the tool that is started to
save a contact finds the arguments of the form, one after the other and each as it is. -/
theorem wndProc_commandLine (h : Reached frequencies backend s) {input : Input}
    {request : Request} {id : Option CString} {arguments : List (String × CString)}
    (hrequest : (s.wndProc frequencies answers input).2 = some request)
    (hsaved : request.saved = some (id, arguments))
    (hid : ∀ i ∈ id, quote ∉ i ∧ i.getLast? ≠ some backslash)
    {cliPath : CString} (hpath : quote ∉ cliPath) :
    arguments = AppState.cliArguments frequencies (s.startedForm answers.now)
      ∧ CommandLine.arguments (qrCommandLine cliPath (logCommand id arguments))
        = (cliPath, commandWords id arguments) := by
  have hsave : (s.wndProc frequencies answers input).2.any Request.isCliSave = true := by
    rw [hrequest]
    exact Request.isCliSave_of_saved hsaved
  rw [wndProc_logQso hsave] at hrequest
  obtain ⟨rfl, hediting⟩ := logQso_saved hrequest hsaved
  refine ⟨rfl, arguments_logCommand (cliArguments_wellFormed ?_) ?_ hpath⟩
  · exact startedForm_fits h.fits _
  · intro i hi
    have hlength : s.form.editingLocalId.length ≤ 63 := h.idFits
    rw [← hediting i hi] at hlength
    exact ⟨hlength, hid i hi⟩

/-- A window of the tool in which one letter was typed. -/
def oneLetter : AppState :=
  ((AppState.initState .cli noon.now).wndProc noFrequencies noon (.char 75)).1

theorem wndProc_commandLine_oneLetter :
    CommandLine.arguments (qrCommandLine (lit "C:\\qr tool.exe")
        (logCommand none (AppState.cliArguments noFrequencies (oneLetter.startedForm noon.now))))
      = (lit "C:\\qr tool.exe",
        commandWords none (AppState.cliArguments noFrequencies (oneLetter.startedForm noon.now))) := by
  have hreached : Reached noFrequencies .cli oneLetter :=
    Reached.step noon (.char 75) (Reached.start noon.now)
  have hrequest : (oneLetter.wndProc noFrequencies noon (.key { vk := .function 10 })).2
      = some (.cliLog (AppState.cliArguments noFrequencies (oneLetter.startedForm noon.now))) := rfl
  exact (wndProc_commandLine hreached hrequest rfl (by simp) (by simp [lit, quote])).2

end Window

end QsoRipper.Win32
