/-
QsoRipper/Win32/CliSaves.lean

The Win32 client and the command line tool together: what becomes of a contact that is saved
through the tool.

The client writes the callsign behind `--call` and the id behind `--id`.  The tool takes both
as its primary argument, without a word before it, and knows neither word.  So no contact is
saved this way, and the form of the client is cleared all the same (`wndProc_cliSave_lost`).
-/
import QsoRipper.Cli.Contacts
import QsoRipper.Win32.CommandLine

namespace QsoRipper.Win32

open CommandLine (quote Piece)

/-! ### The first words -/

section Words

variable {frequencies : Frequencies} {backend : BackendMode} {answers : Answers} {s : AppState}

/-- The command of a save, and the word that it writes before the first value. -/
def firstWords : Option CString → List String
  | some _ => ["update", "--id"]
  | none => ["log", "--call"]

/-- A form with a callsign names it first. -/
theorem cliArguments_cons (frequencies : Frequencies) {form : Form} (h : form.buffers .callsign ≠ []) :
    ∃ rest, AppState.cliArguments frequencies form
      = ("--call", form.buffers .callsign) :: rest := by
  refine ⟨_, List.filter_cons_of_pos ?_⟩
  show (!(form.buffers .callsign).isEmpty) = true
  rw [Bool.not_eq_true', List.isEmpty_eq_false_iff]
  exact h

theorem startedForm_callsign (now : SystemTime) :
    (s.startedForm now).buffers .callsign = s.form.buffers .callsign := by
  rw [AppState.startedForm]
  split_ifs
  · rw [Form.buffers_copy, Function.update_of_ne (by decide)]
  · rfl

/-- Whatever the id is, the tool finds the words before it. -/
theorem arguments_update {id : CString} {arguments : List (String × CString)}
    (h : WellFormed arguments) (hid : id.length ≤ 63) {cliPath : CString}
    (hpath : quote ∉ cliPath) :
    ∃ rest, CommandLine.arguments (qrCommandLine cliPath (logCommand (some id) arguments))
      = (cliPath, [lit "update", lit "--id"] ++ rest) := by
  let pieces := [bareWord (lit "update") isWord_update,
    bareWord (lit "--id") isWord_id]
  let rest := 32 :: quote :: (id ++ quote :: (arguments.flatMap argumentText ++ lit " --json"))
  have hrest : CommandLine.Bounded rest := by simp [rest, CommandLine.Bounded, CommandLine.IsBlank]
  have hline : qrCommandLine cliPath (logCommand (some id) arguments)
      = quote :: (cliPath ++ quote :: (CommandLine.joined pieces ++ rest)) := by
    rw [logCommand_eq h fun i hi => by cases hi; exact hid]
    show [quote] ++ cliPath ++ [quote, 32] ++ (lit "update --id \"" ++ id ++ [quote] ++ _) = _
    simp [pieces, rest, CommandLine.joined, Piece.text, bareWord]
    rfl
  refine ⟨CommandLine.split rest, ?_⟩
  rw [hline, CommandLine.arguments_joined_append hpath _ hrest]
  rfl

/-- The words of the command and the flag are ones that stand for themselves. -/
theorem firstWords_chars (id : Option CString) :
    ∀ word ∈ firstWords id, word.toList.all isFlagChar = true := by
  cases id with
  | some _ =>
      show ∀ word ∈ ["update", "--id"], word.toList.all isFlagChar = true
      simp [isFlagChar]
  | none =>
      show ∀ word ∈ ["log", "--call"], word.toList.all isFlagChar = true
      simp [isFlagChar]

/-- What the tool of a save finds first, behind its own name. -/
theorem logQso_firstWords (h : Reached frequencies backend s) {request : Request}
    {id : Option CString} {arguments : List (String × CString)}
    (hrequest : (s.logQso frequencies answers).2 = some request)
    (hsaved : request.saved = some (id, arguments)) {cliPath : CString} (hpath : quote ∉ cliPath) :
    ∃ rest, CommandLine.arguments (qrCommandLine cliPath (logCommand id arguments))
      = (cliPath, (firstWords id).map lit ++ rest) := by
  obtain ⟨rfl, hediting⟩ := logQso_saved hrequest hsaved
  have hformed : WellFormed (AppState.cliArguments frequencies (s.startedForm answers.now)) :=
    cliArguments_wellFormed (startedForm_fits h.fits _)
  cases id with
  | some id =>
      have hlength : s.form.editingLocalId.length ≤ 63 := h.idFits
      rw [← hediting id rfl] at hlength
      exact arguments_update hformed hlength hpath
  | none =>
      have hsave : (s.logQso frequencies answers).2.any Request.isCliSave = true := by
        rw [hrequest]
        exact Request.isCliSave_of_saved hsaved
      have hcallsign : (s.startedForm answers.now).buffers .callsign ≠ [] := by
        rw [startedForm_callsign]
        exact (logQso_cliSave hsave).2
      obtain ⟨rest, hfirst⟩ := cliArguments_cons frequencies hcallsign
      have hline := arguments_logCommand hformed
        (fun i hi => absurd hi (Option.not_mem_none i)) hpath
      rw [hfirst] at hline ⊢
      exact ⟨_ :: (rest.flatMap argumentWords ++ [lit "--json"]), hline⟩

end Words

/-! ### What the tool does -/

/-- How the tool gets its words: the system reads the bytes of the client as UTF-8, which
leaves the letters of a flag as they are. -/
structure Decoder where
  decode : CString → String
  words : ∀ word : String, word.toList.all isFlagChar = true → decode (lit word) = word

/-- The arguments of the tool that a command line starts. -/
def toolArguments (decoder : Decoder) (line : CString) : List String :=
  (CommandLine.arguments line).2.map decoder.decode

theorem unknown_call : Cli.Unknown Cli.logLoop "--call" where
  dashed := by simp [Cli.isDashed]
  notGlobal := by simp [Cli.globalWords, Cli.commandHelpWords, Cli.Switch.all, Cli.Switch.word]
  option := by
    simp [Cli.logLoop, Cli.OptionLoop.option, Cli.CliOption.shared, Cli.CliOption.word]
  noted := by simp [Cli.logLoop]
  passed := by simp [Cli.logLoop]

theorem unknown_id : Cli.Unknown Cli.updateLoop "--id" where
  dashed := by simp [Cli.isDashed]
  notGlobal := by simp [Cli.globalWords, Cli.commandHelpWords, Cli.Switch.all, Cli.Switch.word]
  option := by
    simp [Cli.updateLoop, Cli.OptionLoop.option, Cli.CliOption.shared, Cli.CliOption.word]
  noted := by simp [Cli.updateLoop]
  passed := by simp [Cli.updateLoop]

/-- The tool saves nothing for words that begin like this. -/
theorem main_firstWords (env : Cli.Environment) (engine : Cli.Answers) (id : Option CString)
    (args : List String) :
    ∀ request ∈ (Cli.main env engine (firstWords id ++ args)).requests,
      request.saves = false := by
  cases id with
  | some _ => exact Cli.main_unknown .update unknown_id args
  | none => exact Cli.main_unknown .log unknown_call args

theorem decode_firstWords (decoder : Decoder) (id : Option CString) :
    ((firstWords id).map lit).map decoder.decode = firstWords id := by
  rw [List.map_map]
  refine (List.map_congr_left fun word hword => ?_).trans (List.map_id _)
  exact decoder.words word (firstWords_chars id word hword)

section Saves

variable {frequencies : Frequencies} {backend : BackendMode} {answers : Answers} {s : AppState}

/-- A save through the tool clears the form. -/
theorem logQso_cleared (h : (s.logQso frequencies answers).2.any Request.isCliSave = true) :
    (s.logQso frequencies answers).1.form.buffers .callsign = [] := by
  obtain ⟨hbackend, hcallsign⟩ := logQso_cliSave h
  rw [AppState.logQso, if_neg hcallsign]
  simp only [hbackend]
  rfl

/-- In every run of the client, whatever is typed, whatever the tool's engine and environment
are: a save through the tool sends no contact to the engine, and the form no longer has it. -/
theorem wndProc_cliSave_lost (h : Reached frequencies backend s) {input : Input}
    {request : Request} {id : Option CString} {arguments : List (String × CString)}
    (hrequest : (s.wndProc frequencies answers input).2 = some request)
    (hsaved : request.saved = some (id, arguments)) {cliPath : CString} (hpath : quote ∉ cliPath)
    (decoder : Decoder) (env : Cli.Environment) (engine : Cli.Answers) :
    (∀ sent ∈ (Cli.main env engine
        (toolArguments decoder (qrCommandLine cliPath (logCommand id arguments)))).requests,
      sent.saves = false)
      ∧ (s.wndProc frequencies answers input).1.form.buffers .callsign = [] := by
  have hsave : (s.wndProc frequencies answers input).2.any Request.isCliSave = true := by
    rw [hrequest]
    exact Request.isCliSave_of_saved hsaved
  have hlog := wndProc_logQso hsave
  rw [hlog] at hrequest hsave ⊢
  obtain ⟨rest, hwords⟩ := logQso_firstWords h hrequest hsaved hpath
  refine ⟨?_, logQso_cleared hsave⟩
  rw [toolArguments, hwords, List.map_append, decode_firstWords]
  exact main_firstWords env engine id _

/-- A decoder of ASCII. -/
def asciiDecoder : Decoder where
  decode text := String.ofList (text.map fun b => Char.ofNat b.toNat)
  words word h := by
    have hchar (c : Char) (hc : c ∈ word.toList) : Char.ofNat (UInt8.ofNat c.toNat).toNat = c := by
      have hflag := List.all_eq_true.mp h c hc
      simp only [isFlagChar, Bool.or_eq_true, Bool.and_eq_true, beq_iff_eq,
        decide_eq_true_eq] at hflag
      rw [UInt8.toNat_ofNat', Nat.mod_eq_of_lt (by omega), Char.ofNat_toNat]
    rw [lit, List.map_map]
    refine (congrArg String.ofList ?_).trans String.ofList_toList
    exact (List.map_congr_left hchar).trans (List.map_id _)

theorem wndProc_cliSave_lost_oneLetter :
    (∀ sent ∈ (Cli.main {} Cli.plainAnswers (toolArguments asciiDecoder
        (qrCommandLine (lit "qr.exe") (logCommand none
          (AppState.cliArguments noFrequencies (oneLetter.startedForm noon.now)))))).requests,
      sent.saves = false)
      ∧ (oneLetter.wndProc noFrequencies noon
          (.key { vk := .function 10 })).1.form.buffers .callsign = [] := by
  have hreached : Reached noFrequencies .cli oneLetter :=
    Reached.step noon (.char 75) (Reached.start noon.now)
  have hrequest : (oneLetter.wndProc noFrequencies noon (.key { vk := .function 10 })).2
      = some (.cliLog (AppState.cliArguments noFrequencies (oneLetter.startedForm noon.now))) := rfl
  exact wndProc_cliSave_lost hreached hrequest rfl (by simp [lit, quote]) asciiDecoder {}
    Cli.plainAnswers

end Saves

end QsoRipper.Win32
